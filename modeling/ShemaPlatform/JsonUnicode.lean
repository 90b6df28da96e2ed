/-
Strings and lists of strings of `json.dumps` under `ensure_ascii=False`: each ends where
it says.
-/
import ShemaPlatform.JsonText

namespace JsonText

/-- What a code point becomes when only what has to be is escaped. -/
def escapeUnicode (c : Char) : List Char :=
  if 32 ≤ c.toNat ∧ c ≠ '"' ∧ c ≠ '\\' then [c] else escape c

theorem readChar_escapeUnicode (c : Char) (rest : List Char) :
    readChar (escapeUnicode c ++ rest) = some (c, rest) := by
  rw [escapeUnicode]
  split
  · rename_i hplain
    exact readChar_plain hplain.2.2 rest
  · exact readChar_escape c rest

theorem escapeUnicode_head (c : Char) (rest rest' : List Char) :
    escapeUnicode c ++ rest ≠ '"' :: rest' := by
  intro h
  by_cases hquote : c = '"'
  · subst hquote
    rw [escapeUnicode, if_neg (by simp)] at h
    exact escape_head _ _ _ h
  · have hread := readChar_escapeUnicode c rest
    rw [h, readChar_plain (by decide)] at hread
    exact hquote (Prod.mk.inj (Option.some.inj hread)).1.symm

theorem flatMap_escapeUnicode_inj {text text' rest rest' : List Char}
    (h : text.flatMap escapeUnicode ++ '"' :: rest =
      text'.flatMap escapeUnicode ++ '"' :: rest') : text = text' ∧ rest = rest' := by
  induction text generalizing text' with
  | nil =>
      cases text' with
      | nil => exact ⟨rfl, (List.cons.inj h).2⟩
      | cons c text' =>
          rw [List.flatMap_cons, List.append_assoc] at h
          exact absurd h.symm (escapeUnicode_head c _ _)
  | cons c text ih =>
      rw [List.flatMap_cons, List.append_assoc] at h
      cases text' with
      | nil => exact absurd h (escapeUnicode_head c _ _)
      | cons c' text' =>
          rw [List.flatMap_cons, List.append_assoc] at h
          have hread := congrArg readChar h
          rw [readChar_escapeUnicode, readChar_escapeUnicode] at hread
          rcases Prod.mk.inj (Option.some.inj hread) with ⟨rfl, htail⟩
          rcases ih htail with ⟨rfl, rfl⟩
          exact ⟨rfl, rfl⟩

theorem quoteUnicode_append_inj {s t : String} {rest rest' : List Char}
    (h : quoteUnicode s ++ rest = quoteUnicode t ++ rest') : s = t ∧ rest = rest' := by
  have hinside := (List.cons.inj h).2
  rw [List.append_eq, List.append_eq, List.append_assoc, List.append_assoc] at hinside
  rcases flatMap_escapeUnicode_inj hinside with ⟨hsame, rfl⟩
  exact ⟨String.toList_inj.mp hsame, rfl⟩

/-- The further strings of a list, up to its end. -/
def restUnicode : List String → List Char
  | [] => [']']
  | text :: rest => ',' :: (quoteUnicode text ++ restUnicode rest)

/-- A list of strings, without blanks behind the commas. -/
def listUnicode : List String → List Char
  | [] => ['[', ']']
  | text :: rest => '[' :: (quoteUnicode text ++ restUnicode rest)

theorem restUnicode_append_inj {texts texts' : List String} {rest rest' : List Char}
    (h : restUnicode texts ++ rest = restUnicode texts' ++ rest') :
    texts = texts' ∧ rest = rest' := by
  induction texts generalizing texts' with
  | nil =>
      cases texts' with
      | nil => exact ⟨rfl, (List.cons.inj h).2⟩
      | cons text' texts' =>
          have hhead := (List.cons.inj h).1
          simp at hhead
  | cons text texts ih =>
      cases texts' with
      | nil =>
          have hhead := (List.cons.inj h).1
          simp at hhead
      | cons text' texts' =>
          have htail := (List.cons.inj h).2
          rw [List.append_eq, List.append_eq, List.append_assoc, List.append_assoc] at htail
          rcases quoteUnicode_append_inj htail with ⟨rfl, hrest⟩
          rcases ih hrest with ⟨rfl, rfl⟩
          exact ⟨rfl, rfl⟩

theorem listUnicode_append_inj {texts texts' : List String} {rest rest' : List Char}
    (h : listUnicode texts ++ rest = listUnicode texts' ++ rest') :
    texts = texts' ∧ rest = rest' := by
  cases texts with
  | nil =>
      cases texts' with
      | nil => exact ⟨rfl, (List.cons.inj (List.cons.inj h).2).2⟩
      | cons text' texts' =>
          have hhead := (List.cons.inj (List.cons.inj h).2).1
          simp at hhead
  | cons text texts =>
      cases texts' with
      | nil =>
          have hhead := (List.cons.inj (List.cons.inj h).2).1
          simp at hhead
      | cons text' texts' =>
          have htail := (List.cons.inj h).2
          rw [List.append_eq, List.append_eq, List.append_assoc, List.append_assoc] at htail
          rcases quoteUnicode_append_inj htail with ⟨rfl, hrest⟩
          rcases restUnicode_append_inj hrest with ⟨rfl, rfl⟩
          exact ⟨rfl, rfl⟩

end JsonText
