/-
What an actor sees of the others: nothing, unless one of them has used a key that reads
like one of the actor's own.
-/
import ShemaPlatform.SavedItemBooks

namespace ShemaPlatform

open Calendar ReadCommitted ReadCommitted.Prog

namespace SaveRequest

/-- Whether a request is by an actor. -/
def isBy (actor : String) (request : SaveRequest) : Bool :=
  request.call.actorId == actor

theorem isBy_iff {actor : String} {request : SaveRequest} :
    request.isBy actor = true ↔ request.call.actorId = actor := beq_iff_eq

/-- The same request at the same time, whatever ids are drawn. -/
structure Again (request again : SaveRequest) : Prop where
  kind : again.kind = request.kind
  call : again.call.Retries request.call
  correlationId : again.call.correlationId = request.call.correlationId
  now : again.call.now = request.call.now

end SaveRequest

/-- Every request comes after those before it. -/
def Lawful (sha256 uuid5 : String → String) (history : List SaveRequest) : Prop :=
  ∀ before request after, history = before ++ request :: after →
    request.Follows sha256 uuid5 before

/-- The requests of an actor are the same in both histories. -/
def SameRequests (actor : String) (history other : List SaveRequest) : Prop :=
  List.Forall₂ SaveRequest.Again (history.filter (·.isBy actor)) (other.filter (·.isBy actor))

/-- What an actor is answered in a history, ids apart. -/
def answersTo (sha256 uuid5 : String → String) (actor : String) :
    List SaveRequest → SaveRows → List (Except Failure SavedContent)
  | [], _ => []
  | request :: rest, rows =>
      let performed := request.perform sha256 uuid5 rows
      if request.isBy actor then
        (performed.1.map fun answer => SavedContent.ofItem answer.2) ::
          answersTo sha256 uuid5 actor rest performed.2
      else answersTo sha256 uuid5 actor rest performed.2

/-- The request that a key was first bound by. -/
def binderOf (key : String) (past : List SaveRequest) : Option SaveRequest :=
  past.find? fun request => request.accepted && request.key == key

/-- Whenever a request of this actor comes to its key, nobody else has bound it. -/
def Untangled (actor : String) (history : List SaveRequest) : Prop :=
  ∀ before request after, history = before ++ request :: after → request.isBy actor = true →
    request.enters.isOk = true → ∀ binder, binderOf request.key before = some binder →
      binder.isBy actor = true

namespace SavingBook

/-- The book after these requests. -/
def of (past : List SaveRequest) : SavingBook :=
  past.foldl after empty

def answersTo (actor : String) :
    List SaveRequest → SavingBook → List (Except Failure SavedContent)
  | [], _ => []
  | request :: rest, book =>
      if request.isBy actor then book.answer request :: answersTo actor rest (book.after request)
      else answersTo actor rest (book.after request)

@[simp] theorem of_append (past : List SaveRequest) (request : SaveRequest) :
    of (past ++ [request]) = (of past).after request := by
  rw [of, List.foldl_append]
  rfl

end SavingBook

/-- What holds at every place of a list holds at its head and at every place of the rest. -/
theorem forall_splits_cons {α : Type} {head : α} {rest : List α} {holds : List α → α → Prop} :
    (∀ before item after, head :: rest = before ++ item :: after → holds before item) ↔
      holds [] head ∧ ∀ before item after, rest = before ++ item :: after →
        holds (head :: before) item := by
  constructor
  · intro h
    constructor
    · exact h [] head rest rfl
    · exact fun before item after hrest => h (head :: before) item after (by rw [hrest]; rfl)
  · rintro ⟨hhead, hrest⟩ before item after hsplit
    cases before with
    | nil =>
        obtain ⟨rfl, _⟩ := List.cons.inj hsplit
        exact hhead
    | cons first before =>
        obtain ⟨rfl, hsame⟩ := List.cons.inj hsplit
        exact hrest before item after hsame

section Tables

variable {sha256 uuid5 : String → String} {actor : String}

/-- The answers of the tables are those of the book. -/
theorem answersTo_eq {past rest : List SaveRequest} {rows : SaveRows}
    (hkept : Kept sha256 uuid5 past (.of past) rows)
    (hlawful : Lawful sha256 uuid5 (past ++ rest)) :
    answersTo sha256 uuid5 actor rest rows = SavingBook.answersTo actor rest (.of past) := by
  induction rest generalizing past rows with
  | nil => rfl
  | cons request rest ih =>
      obtain ⟨hanswer, hafter⟩ := hkept.perform (hlawful past request rest rfl)
      rw [← SavingBook.of_append] at hafter
      have hrest := ih hafter (by rw [List.append_assoc]; exact hlawful)
      rw [SavingBook.of_append] at hrest
      simp only [answersTo, SavingBook.answersTo, hanswer, hrest]

end Tables

section Again

variable {request again : SaveRequest}

theorem newItem_again {call retry : SaveCall} (h : retry.actorId = call.actorId)
    (kind : SavedKind) (normalized : String) :
    (retry.newItem kind normalized).map (fun _ => ()) =
      (call.newItem kind normalized).map fun _ => () := by
  cases kind with
  | monitor =>
      simp only [SaveCall.newItem, SaveCall.newMonitor, call.uuid.1, retry.uuid.1, h, true_and]
      split
      · split <;> rfl
      · rfl
  | favorite =>
      simp only [SaveCall.newItem, SaveCall.newFavorite, call.uuid.1, retry.uuid.1, h, true_and]
      split
      · split <;> rfl
      · rfl

theorem SaveRequest.Again.enters (h : request.Again again) : again.enters = request.enters := by
  rw [SaveRequest.enters, SaveRequest.enters, SaveCall.authorize, SaveCall.authorize,
    SaveRequest.normalized, SaveRequest.normalized, h.kind, h.call.actorId, h.call.permissions,
    h.call.identifierType, h.call.identifier]

theorem SaveRequest.Again.key (h : request.Again again) : again.key = request.key := by
  rw [SaveRequest.key, SaveRequest.key, SaveCall.reservationKey, SaveCall.reservationKey, h.kind,
    h.call.actorId, h.call.idempotencyKey]

theorem SaveRequest.Again.text (h : request.Again again) (normalized : String) :
    again.text normalized = request.text normalized := by
  rw [SaveRequest.text, SaveRequest.text, SaveCall.requestText, SaveCall.requestText, h.kind,
    h.call.actorId, h.call.identifierType]

theorem SaveRequest.Again.identity (h : request.Again again) (normalized : String) :
    again.identity normalized = request.identity normalized := by
  rw [SaveRequest.identity, SaveRequest.identity, SaveCall.identity, SaveCall.identity,
    h.call.actorId, h.call.identifierType]

/-- The book does not see the ids that are drawn. -/
theorem SavingBook.same_again (book : SavingBook) (h : request.Again again) :
    book.answer again = book.answer request ∧ book.after again = book.after request := by
  have hcreated : ∀ normalized,
      book.createdAt again normalized = book.createdAt request normalized := by
    intro normalized
    rw [SavingBook.createdAt, SavingBook.createdAt, h.kind, h.identity, h.now]
  have hadmits : ∀ normalized,
      book.admits again normalized = book.admits request normalized := by
    intro normalized
    rw [SavingBook.admits, SavingBook.admits, h.key, h.text,
      newItem_again h.call.actorId, h.kind]
  have hbind : ∀ normalized, book.bind again normalized = book.bind request normalized := by
    intro normalized
    rw [SavingBook.bind, SavingBook.bind, h.key, h.text, h.kind, h.identity, hcreated]
  constructor
  · rw [SavingBook.answer, SavingBook.answer, h.enters]
    simp only [hadmits, hcreated, h.kind, h.identity]
  · rw [SavingBook.after, SavingBook.after, h.enters]
    simp only [hadmits, hbind]

theorem SavingBook.answersTo_again {actor : String} {requests others : List SaveRequest}
    (h : List.Forall₂ SaveRequest.Again requests others) (book : SavingBook) :
    SavingBook.answersTo actor others book = SavingBook.answersTo actor requests book := by
  induction h generalizing book with
  | nil => rfl
  | cons hhead htail ih =>
      obtain ⟨hanswer, hafter⟩ := book.same_again hhead
      rw [SavingBook.answersTo, SavingBook.answersTo, SaveRequest.isBy, SaveRequest.isBy,
        hhead.call.actorId, hanswer, hafter, ih]

end Again

/-- The book of an actor alone, next to the book of everybody. -/
structure Agrees (actor : String) (book own : SavingBook) : Prop where
  bound : ∀ key text, own.bound key = some text → book.bound key = some text
  created : ∀ kind (identity : SavedIdentity), identity.actorId = actor →
    book.created kind identity = own.created kind identity
  foreign : ∀ key text, book.bound key = some text → own.bound key = none →
    ∃ other normalized, SaveRequest.isBy actor other = false ∧ other.key = key ∧
      text = other.text normalized

namespace Agrees

variable {actor : String} {book own : SavingBook} {request : SaveRequest}

theorem refl (book : SavingBook) : Agrees actor book book where
  bound _ _ h := h
  created _ _ _ := rfl
  foreign _ _ hbound hnone := by cases hnone.symm.trans hbound

/-- The requests of the others leave the actor's book alone. -/
theorem of_other (h : Agrees actor book own) (hother : request.isBy actor = false) :
    Agrees actor (book.after request) own := by
  cases henters : request.enters with
  | error error =>
      rw [SavingBook.after_of_error henters]
      exact h
  | ok normalized =>
      cases hadmits : book.admits request normalized with
      | error error =>
          rw [SavingBook.after_of_refuses henters hadmits]
          exact h
      | ok passed =>
          rw [SavingBook.after_of_admits henters hadmits]
          constructor
          · intro key text htext
            have hbook := h.bound key text htext
            by_cases hkey : request.key = key
            · subst hkey
              rw [SavingBook.admits, hbook, require_eq_ok, beq_iff_eq] at hadmits
              rw [SavingBook.bound_bind_self, hadmits]
            · rw [SavingBook.bound_bind_of_ne _ _ _ hkey]
              exact hbook
          · intro kind identity hactor
            rw [← h.created kind identity hactor, SavingBook.created_bind, if_neg]
            rintro ⟨_, rfl⟩
            rw [SaveRequest.isBy, beq_eq_false_iff_ne] at hother
            exact hother hactor
          · intro key text htext hnone
            by_cases hkey : request.key = key
            · subst hkey
              rw [SavingBook.bound_bind_self] at htext
              exact ⟨request, normalized, hother, rfl, (Option.some.inj htext).symm⟩
            · rw [SavingBook.bound_bind_of_ne _ _ _ hkey] at htext
              exact h.foreign key text htext hnone

theorem createdAt (h : Agrees actor book own) (hby : request.isBy actor = true)
    (normalized : String) : book.createdAt request normalized =
      own.createdAt request normalized := by
  rw [SavingBook.createdAt, SavingBook.createdAt, h.created]
  exact SaveRequest.isBy_iff.mp hby

/-- A request of the actor whose key stands alike in both books is answered alike. -/
theorem answer_eq (h : Agrees actor book own) (hby : request.isBy actor = true)
    (hkey : request.enters.isOk = true → book.bound request.key = own.bound request.key) :
    book.answer request = own.answer request := by
  cases henters : request.enters with
  | error error => rw [SavingBook.answer_of_error henters, SavingBook.answer_of_error henters]
  | ok normalized =>
      rw [SavingBook.answer_of_enters henters, SavingBook.answer_of_enters henters,
        SavingBook.admits, SavingBook.admits, hkey (by rw [henters]; rfl), h.createdAt hby]

theorem of_own (h : Agrees actor book own) (hby : request.isBy actor = true)
    (hkey : request.enters.isOk = true → book.bound request.key = own.bound request.key) :
    Agrees actor (book.after request) (own.after request) := by
  cases henters : request.enters with
  | error error =>
      rw [SavingBook.after_of_error henters, SavingBook.after_of_error henters]
      exact h
  | ok normalized =>
      have hsame : book.admits request normalized = own.admits request normalized := by
        rw [SavingBook.admits, SavingBook.admits, hkey (by rw [henters]; rfl)]
      cases hadmits : own.admits request normalized with
      | error error =>
          rw [SavingBook.after_of_refuses henters hadmits,
            SavingBook.after_of_refuses henters (hsame.trans hadmits)]
          exact h
      | ok passed =>
          rw [SavingBook.after_of_admits henters hadmits,
            SavingBook.after_of_admits henters (hsame.trans hadmits)]
          constructor
          · intro key text htext
            by_cases hsame : request.key = key
            · subst hsame
              rw [SavingBook.bound_bind_self] at htext ⊢
              exact htext
            · rw [SavingBook.bound_bind_of_ne _ _ _ hsame] at htext ⊢
              exact h.bound key text htext
          · intro kind identity hactor
            rw [SavingBook.created_bind, SavingBook.created_bind, h.createdAt hby,
              h.created kind identity hactor]
          · intro key text htext hnone
            by_cases hsame : request.key = key
            · subst hsame
              rw [SavingBook.bound_bind_self] at hnone
              cases hnone
            · rw [SavingBook.bound_bind_of_ne _ _ _ hsame] at htext hnone
              exact h.foreign key text htext hnone

/-- A request of the actor whose key another one has bound is refused for it. -/
theorem answer_ne (h : Agrees actor book own) (hby : request.isBy actor = true)
    (henters : request.enters.isOk = true)
    (hkey : book.bound request.key ≠ own.bound request.key) :
    book.answer request ≠ own.answer request := by
  obtain ⟨normalized, henters⟩ : ∃ normalized, request.enters = .ok normalized := by
    cases hresult : request.enters with
    | ok normalized => exact ⟨normalized, rfl⟩
    | error error =>
        rw [hresult] at henters
        cases henters
  cases hown : own.bound request.key with
  | some text =>
      rw [hown, h.bound _ _ hown] at hkey
      exact absurd rfl hkey
  | none =>
      cases hbook : book.bound request.key with
      | none =>
          rw [hown, hbook] at hkey
          exact absurd rfl hkey
      | some text =>
          obtain ⟨other, normalized', hother, hsamekey, rfl⟩ := h.foreign _ _ hbook hown
          have htext : other.text normalized' ≠ request.text normalized := by
            intro hsame
            have hidentity := (same_request hsamekey hsame).2
            have hactor : other.call.actorId = request.call.actorId :=
              congrArg SavedIdentity.actorId hidentity
            rw [SaveRequest.isBy, hactor] at hother
            cases hby.symm.trans hother
          have hrefuses : book.admits request normalized = .error (.idempotencyConflict
              "idempotency key reused with different request") := by
            rw [SavingBook.admits, hbook]
            exact require_eq_error.mpr ⟨beq_eq_false_iff_ne.mpr htext, rfl⟩
          rw [SavingBook.answer_of_enters henters, SavingBook.answer_of_enters henters, hrefuses,
            SavingBook.admits, hown]
          cases hmade : request.call.newItem request.kind normalized with
          | ok made =>
              intro hsame
              cases hsame
          | error error =>
              obtain ⟨message, rfl⟩ := newItem_raises hmade
              intro hsame
              cases hsame

end Agrees

section Bound

variable {book : SavingBook} {request : SaveRequest} {key text : String}

/-- What a request binds its key to. -/
def SaveRequest.boundText (request : SaveRequest) : Option String :=
  request.enters.toOption.map request.text

theorem bound_after_of_ne (hkey : request.key ≠ key) :
    (book.after request).bound key = book.bound key := by
  cases henters : request.enters with
  | error error => rw [SavingBook.after_of_error henters]
  | ok normalized =>
      cases hadmits : book.admits request normalized with
      | error error => rw [SavingBook.after_of_refuses henters hadmits]
      | ok passed =>
          rw [SavingBook.after_of_admits henters hadmits, SavingBook.bound_bind_of_ne _ _ _ hkey]

/-- A key that is bound stays as it is. -/
theorem bound_after_of_some (h : book.bound request.key = some text) :
    (book.after request).bound request.key = some text := by
  cases henters : request.enters with
  | error error => rw [SavingBook.after_of_error henters, h]
  | ok normalized =>
      cases hadmits : book.admits request normalized with
      | error error => rw [SavingBook.after_of_refuses henters hadmits, h]
      | ok passed =>
          rw [SavingBook.after_of_admits henters hadmits, SavingBook.bound_bind_self]
          rw [SavingBook.admits, h, require_eq_ok, beq_iff_eq] at hadmits
          rw [hadmits]

/-- A key that is free is bound by a request that is accepted. -/
theorem bound_after_of_none (h : book.bound request.key = none) :
    (book.after request).bound request.key =
      if request.accepted then request.boundText else none := by
  cases henters : request.enters with
  | error error =>
      rw [SavingBook.after_of_error henters, h, SaveRequest.accepted, henters]
      rfl
  | ok normalized =>
      cases hmade : request.call.newItem request.kind normalized with
      | error error =>
          have hadmits : book.admits request normalized = .error error := by
            rw [SavingBook.admits, h, hmade]
            rfl
          rw [SavingBook.after_of_refuses henters hadmits, h, SaveRequest.accepted, henters]
          simp only [hmade]
          rfl
      | ok made =>
          have hadmits : book.admits request normalized = .ok () := by
            rw [SavingBook.admits, h, hmade]
            rfl
          rw [SavingBook.after_of_admits henters hadmits, SavingBook.bound_bind_self,
            if_pos (accepted_iff.mpr ⟨normalized, henters, made, hmade⟩), SaveRequest.boundText,
            henters]
          rfl

theorem boundText_of_accepted (h : request.accepted = true) :
    ∃ normalized, request.enters = .ok normalized ∧
      request.boundText = some (request.text normalized) := by
  obtain ⟨normalized, henters, _⟩ := accepted_iff.mp h
  refine ⟨normalized, henters, ?_⟩
  rw [SaveRequest.boundText, henters]
  rfl

theorem binderOf_eq_some {past : List SaveRequest} {binder : SaveRequest}
    (h : binderOf key past = some binder) :
    binder ∈ past ∧ binder.accepted = true ∧ binder.key = key := by
  have hfound := List.find?_some h
  rw [Bool.and_eq_true, beq_iff_eq] at hfound
  exact ⟨List.mem_of_find?_eq_some h, hfound⟩

theorem binderOf_append (past : List SaveRequest) :
    binderOf key (past ++ [request]) = (binderOf key past).or
      (if request.accepted && request.key == key then some request else none) := by
  rw [binderOf, List.find?_append, ← binderOf, List.find?_singleton]

/-- A key is bound by the first request that could. -/
theorem bound_of (key : String) (past : List SaveRequest) :
    (SavingBook.of past).bound key = (binderOf key past).bind SaveRequest.boundText := by
  induction past using List.reverseRecOn with
  | nil => rfl
  | append_singleton past request ih =>
      rw [SavingBook.of_append, binderOf_append]
      by_cases hkey : request.key = key
      · subst hkey
        cases hbinder : binderOf request.key past with
        | none =>
            rw [hbinder, Option.bind_none] at ih
            rw [bound_after_of_none ih, beq_self_eq_true, Bool.and_true, Option.none_or]
            split
            · rfl
            · rfl
        | some binder =>
            obtain ⟨normalized, _, htext⟩ :=
              boundText_of_accepted (binderOf_eq_some hbinder).2.1
            rw [hbinder, Option.bind_some, htext] at ih
            rw [bound_after_of_some ih, Option.some_or, Option.bind_some, htext]
      · rw [bound_after_of_ne hkey, ih, beq_eq_false_iff_ne.mpr hkey, Bool.and_false,
          if_neg Bool.false_ne_true, Option.or_none]

end Bound

section Histories

variable {actor : String}

theorem of_filter_append (past : List SaveRequest) (request : SaveRequest) :
    SavingBook.of ((past ++ [request]).filter (·.isBy actor)) =
      if request.isBy actor then (SavingBook.of (past.filter (·.isBy actor))).after request
      else SavingBook.of (past.filter (·.isBy actor)) := by
  rw [List.filter_append]
  by_cases hby : request.isBy actor = true
  · rw [if_pos hby, List.filter_singleton, hby, cond_true, SavingBook.of_append]
  · rw [if_neg hby, List.filter_singleton, Bool.eq_false_iff.mpr hby, cond_false,
      List.append_nil]

/-- A request of an actor finds its key as if the actor were alone. -/
def Undisturbed (actor : String) (before : List SaveRequest) (request : SaveRequest) : Prop :=
  request.isBy actor = true → request.enters.isOk = true →
    (SavingBook.of before).bound request.key =
      (SavingBook.of (before.filter (·.isBy actor))).bound request.key

/-- An actor is answered as if alone exactly when each of the actor's requests finds its key
as if alone. -/
theorem answersTo_eq_iff (past rest : List SaveRequest)
    (h : Agrees actor (.of past) (.of (past.filter (·.isBy actor)))) :
    SavingBook.answersTo actor rest (.of past) =
        SavingBook.answersTo actor (rest.filter (·.isBy actor))
          (.of (past.filter (·.isBy actor))) ↔
      ∀ before request after, rest = before ++ request :: after →
        Undisturbed actor (past ++ before) request := by
  induction rest generalizing past with
  | nil => simp [SavingBook.answersTo]
  | cons request rest ih =>
      have hsplits := @forall_splits_cons _ request rest
        fun before => Undisturbed actor (past ++ before)
      rw [List.append_nil] at hsplits
      rw [hsplits]
      have hnext := ih (past ++ [request])
      rw [SavingBook.of_append, of_filter_append] at hnext
      simp only [List.append_assoc, List.singleton_append] at hnext
      rw [SavingBook.answersTo]
      by_cases hby : request.isBy actor = true
      · rw [if_pos hby] at hnext
        rw [if_pos hby, List.filter_cons_of_pos hby, SavingBook.answersTo, if_pos hby]
        constructor
        · intro hsame
          obtain ⟨hanswer, hrest⟩ := List.cons.inj hsame
          have hkey : request.enters.isOk = true → (SavingBook.of past).bound request.key =
              (SavingBook.of (past.filter (·.isBy actor))).bound request.key := by
            intro henters
            by_contra hkey
            exact h.answer_ne hby henters hkey hanswer
          exact ⟨fun _ => hkey, (hnext (h.of_own hby hkey)).mp hrest⟩
        · rintro ⟨hkey, hrest⟩
          rw [h.answer_eq hby (hkey hby), (hnext (h.of_own hby (hkey hby))).mpr hrest]
      · rw [if_neg hby] at hnext
        rw [if_neg hby, List.filter_cons_of_neg hby,
          hnext (h.of_other (Bool.eq_false_iff.mpr hby))]
        constructor
        · exact fun hrest => ⟨fun hby' => absurd hby' hby, hrest⟩
        · exact fun hboth => hboth.2

theorem undisturbed_iff {before : List SaveRequest} {request : SaveRequest} :
    (SavingBook.of before).bound request.key =
        (SavingBook.of (before.filter (·.isBy actor))).bound request.key ↔
      ∀ binder, binderOf request.key before = some binder → binder.isBy actor = true := by
  rw [bound_of, bound_of]
  constructor
  · intro hsame binder hbinder
    obtain ⟨_, haccepted, hkey⟩ := binderOf_eq_some hbinder
    obtain ⟨normalized, _, htext⟩ := boundText_of_accepted haccepted
    rw [hbinder, Option.bind_some, htext] at hsame
    obtain ⟨own, hown, hownText⟩ := Option.bind_eq_some_iff.mp hsame.symm
    obtain ⟨hmem, hownAccepted, hownKey⟩ := binderOf_eq_some hown
    obtain ⟨normalized', _, htext'⟩ := boundText_of_accepted hownAccepted
    rw [htext'] at hownText
    -- one key and one text are of one actor
    have hidentity := (same_request (hownKey.trans hkey.symm) (Option.some.inj hownText)).2
    have hactor : own.call.actorId = binder.call.actorId :=
      congrArg SavedIdentity.actorId hidentity
    rw [SaveRequest.isBy, ← hactor]
    exact (List.mem_filter.mp hmem).2
  · intro hbinder
    congr 1
    cases hfound : binderOf request.key before with
    | none =>
        symm
        rw [binderOf, List.find?_eq_none] at hfound ⊢
        exact fun other hother => hfound other (List.mem_filter.mp hother).1
    | some binder =>
        have hby' := hbinder binder hfound
        rw [binderOf, List.find?_eq_some_iff_append] at hfound
        obtain ⟨hbinds, earlier, later, rfl, hearlier⟩ := hfound
        symm
        rw [binderOf, List.filter_append, List.filter_cons_of_pos hby',
          List.find?_eq_some_iff_append]
        refine ⟨hbinds, _, _, rfl, ?_⟩
        exact fun other hother => hearlier other (List.mem_filter.mp hother).1

theorem untangled_iff (history : List SaveRequest) :
    Untangled actor history ↔ ∀ before request after, history = before ++ request :: after →
      Undisturbed actor before request := by
  constructor
  · intro h before request after hsplit hby henters
    exact undisturbed_iff.mpr (h before request after hsplit hby henters)
  · intro h before request after hsplit hby henters
    exact undisturbed_iff.mp (h before request after hsplit hby henters)

/-- An actor is answered as if alone exactly in a history that is untangled. -/
theorem answersTo_eq_alone_iff (history : List SaveRequest) :
    SavingBook.answersTo actor history .empty =
        SavingBook.answersTo actor (history.filter (·.isBy actor)) .empty ↔
      Untangled actor history := by
  rw [untangled_iff]
  exact answersTo_eq_iff [] history (Agrees.refl .empty)

end Histories

section Alone

variable {sha256 uuid5 : String → String} {actor : String} {history : List SaveRequest}

theorem Lawful.filter (h : Lawful sha256 uuid5 history) :
    Lawful sha256 uuid5 (history.filter (·.isBy actor)) := by
  intro before request after hsplit
  rw [List.filter_eq_append_iff] at hsplit
  obtain ⟨first, second, rfl, rfl, hsecond⟩ := hsplit
  obtain ⟨between, rest, rfl, _, _, _⟩ := List.filter_eq_cons_iff.mp hsecond
  have hfollows := h (first ++ between) request rest (by rw [List.append_assoc])
  have hmem : ∀ other ∈ first.filter (·.isBy actor), other ∈ first ++ between :=
    fun other hother => List.mem_append_left _ (List.mem_filter.mp hother).1
  constructor
  · exact fun other hother => hfollows.itemId other (hmem other hother)
  · exact fun other hother => hfollows.auditId other (hmem other hother)
  · exact fun other hother => hfollows.eventId other (hmem other hother)
  · exact fun other hother => hfollows.told other (hmem other hother)

/-- An actor is alone among requests of one's own. -/
theorem untangled_filter : Untangled actor (history.filter (·.isBy actor)) := by
  intro before request after hsplit _ _ binder hbinder
  have hmem : binder ∈ history.filter (·.isBy actor) := by
    rw [hsplit]
    exact List.mem_append_left _ (binderOf_eq_some hbinder).1
  exact (List.mem_filter.mp hmem).2

theorem SaveRequest.Again.refl (request : SaveRequest) : request.Again request where
  kind := rfl
  call := ⟨rfl, rfl, rfl, rfl, rfl⟩
  correlationId := rfl
  now := rfl

theorem sameRequests_filter : SameRequests actor history (history.filter (·.isBy actor)) := by
  rw [SameRequests, List.filter_filter]
  simp only [Bool.and_self]
  exact List.forall₂_same.mpr fun request _ => SaveRequest.Again.refl request

theorem answersTo_start (h : Lawful sha256 uuid5 history) :
    answersTo sha256 uuid5 actor history [] = SavingBook.answersTo actor history .empty :=
  answersTo_eq Kept.nil h

end Alone

/-- An actor is answered alike in a history and in every untangled one with the same requests
of the actor, exactly if the history is untangled itself. -/
theorem actors_apart (sha256 uuid5 : String → String) (actor : String)
    (history : List SaveRequest) (hlawful : Lawful sha256 uuid5 history) :
    (∀ other, Lawful sha256 uuid5 other → SameRequests actor history other →
      Untangled actor other →
        answersTo sha256 uuid5 actor other [] = answersTo sha256 uuid5 actor history []) ↔
      Untangled actor history := by
  rw [answersTo_start hlawful]
  constructor
  · intro h
    rw [← answersTo_eq_alone_iff, ← h _ hlawful.filter sameRequests_filter untangled_filter]
    exact answersTo_start hlawful.filter
  · intro huntangled other hother hsame huntangled'
    have halone := (answersTo_eq_alone_iff other).mpr huntangled'
    rw [answersTo_start hother, halone, SavingBook.answersTo_again hsame]
    exact ((answersTo_eq_alone_iff history).mpr huntangled).symm

theorem Lawful.nil {sha256 uuid5 : String → String} : Lawful sha256 uuid5 [] := by
  intro before request after hsplit
  simp at hsplit

/-- A history goes on with a request that comes after it. -/
theorem Lawful.append {sha256 uuid5 : String → String} {past : List SaveRequest}
    {request : SaveRequest} (h : Lawful sha256 uuid5 past)
    (hfollows : request.Follows sha256 uuid5 past) : Lawful sha256 uuid5 (past ++ [request]) := by
  intro before later after hsplit
  rcases List.eq_nil_or_concat after with rfl | ⟨between, last, rfl⟩
  · obtain ⟨rfl, hlast⟩ := List.append_inj' hsplit rfl
    obtain rfl := List.singleton_inj.mp hlast
    exact hfollows
  · rw [List.concat_eq_append, ← List.cons_append, ← List.append_assoc] at hsplit
    exact h before later between (List.append_inj' hsplit rfl).1

theorem follows_nil {sha256 uuid5 : String → String} (request : SaveRequest) :
    request.Follows sha256 uuid5 [] where
  itemId _ h := by cases h
  auditId _ h := by cases h
  eventId _ h := by cases h
  told _ h := by cases h

theorem lawful_singleton {sha256 uuid5 : String → String} (request : SaveRequest) :
    Lawful sha256 uuid5 [request] :=
  Lawful.nil.append (follows_nil request)

theorem untangled_singleton {actor : String} (request : SaveRequest) :
    Untangled actor [request] := by
  intro before later after hsplit _ _ binder hbinder
  cases before with
  | nil => cases hbinder
  | cons first before => simp at hsplit

theorem actors_apart_sample : Lawful id id [favoriteRequest] ∧
    ∀ other, Lawful id id other → SameRequests "operator" [favoriteRequest] other →
      Untangled "operator" other → answersTo id id "operator" other [] =
        answersTo id id "operator" [favoriteRequest] [] :=
  ⟨lawful_singleton favoriteRequest,
    (actors_apart id id "operator" [favoriteRequest] (lawful_singleton favoriteRequest)).mpr
      (untangled_singleton favoriteRequest)⟩

theorem neighbour_uuid : PyText.blank "f2" = false ∧
    PyText.startsWith "f2" "pending:" = false ∧ PyText.blank "a2" = false := by decide

/-- A favorite of `operator:integration`. -/
def neighbourRequest : SaveRequest where
  kind := .favorite
  call :=
    { identifierType := .inn
      identifier := "7707083893"
      actorId := "operator:integration"
      permissions := [.counterpartyFavoriteManage]
      idempotencyKey := "request-1"
      correlationId := "correlation"
      now := 0
      itemId := "f2"
      auditId := "a2"
      uuid := neighbour_uuid }

/-- A favorite of `operator`, under a key that reads the same. -/
def tangledRequest : SaveRequest where
  kind := .favorite
  call := { favoriteRequest.call with idempotencyKey := "integration:request-1" }

/-- The first request of another actor makes the second one fail. -/
theorem actors_interfere :
    ¬ ∀ (sha256 uuid5 : String → String) (actor : String) (history other : List SaveRequest),
      Function.Injective sha256 → Lawful sha256 uuid5 history → Lawful sha256 uuid5 other →
        SameRequests actor history other →
          answersTo sha256 uuid5 actor other [] = answersTo sha256 uuid5 actor history [] := by
  intro h
  have hfollows : tangledRequest.Follows id id [neighbourRequest] := by
    constructor
    · decide
    · decide
    · decide
    · exact fun _ _ _ _ _ _ hsame => hsame
  have hlawful : Lawful id id [neighbourRequest, tangledRequest] :=
    (lawful_singleton neighbourRequest).append hfollows
  have hsame := h id id "operator" _ _ Function.injective_id hlawful hlawful.filter
    sameRequests_filter
  rw [answersTo_start hlawful, answersTo_start hlawful.filter] at hsame
  have huntangled := (answersTo_eq_alone_iff _).mp hsame.symm
  have hbound : binderOf tangledRequest.key [neighbourRequest] = some neighbourRequest :=
    List.find?_cons_of_pos (by decide)
  have hbinder := huntangled [neighbourRequest] tangledRequest [] rfl (by decide) (by decide)
    neighbourRequest hbound
  exact absurd hbinder (by decide)

end ShemaPlatform
