/-
Runs of the identity directory.  A lookup trims the tax id that it is given and compares
it with the tax ids as they were stored, and only one of the entries trims what it stores.
-/
import ShemaPlatform.IdentityDirectory
import ShemaPlatform.PyStrip

namespace ShemaPlatform

open PyText (strip)

/-- A call that may register an identity. -/
inductive DirectoryCall where
  | register (candidate : Identity)
  | registerNew (arguments : NewIdentity)
  | process (discovery : Discovery)

namespace DirectoryCall

/-- The directory after a call; one that raises leaves it as it is. -/
def perform (directory : IdentityDirectory) : DirectoryCall → IdentityDirectory
  | .register candidate => (directory.register candidate).toOption.getD directory
  | .registerNew arguments => (directory.registerNew arguments).toOption.getD directory
  | .process discovery => ((discovery.process directory).toOption.map Prod.snd).getD directory

/-- The directory after some calls. -/
def after (calls : List DirectoryCall) : IdentityDirectory :=
  calls.foldl perform .empty

/-- The identity that a call would register. -/
def offered : DirectoryCall → Option Identity
  | .register candidate => some candidate
  | .registerNew arguments =>
      if arguments.candidate.canonicalName = "" then none else some arguments.candidate
  | .process discovery => some discovery.provisional

end DirectoryCall

namespace IdentityDirectory

variable {directory next : IdentityDirectory} {candidate identity : Identity} {taxId : String}

/-- Nothing speaks against a registration. -/
structure Admits (directory : IdentityDirectory) (candidate : Identity) : Prop where
  given : candidate.taxIdText ≠ ""
  fresh : candidate.identityId ∉ directory.identities.map Identity.identityId
  unknown : directory.findByTaxId candidate.taxIdText = []

theorem mem_findByTaxId : identity ∈ directory.findByTaxId taxId ↔
    strip taxId ≠ "" ∧ identity ∈ directory.identities ∧ identity.taxId = some (strip taxId) := by
  unfold findByTaxId
  by_cases hblank : strip taxId = ""
  · simp [hblank]
  · simp [hblank]

theorem register_isOk : (∃ next, directory.register candidate = .ok next) ↔
    directory.Admits candidate := by
  unfold register
  constructor
  · rintro ⟨next, h⟩
    split at h
    · cases h
    · split at h
      · split at h
        · constructor <;> assumption
        · cases h
      · cases h
  · intro h
    rw [if_neg h.given, dif_pos h.fresh, if_pos h.unknown]
    exact ⟨_, rfl⟩

theorem register_eq_ok (h : directory.register candidate = .ok next) :
    next.identities = directory.identities ++ [candidate] := by
  have hadmits := register_isOk.mp ⟨next, h⟩
  rw [register, if_neg hadmits.given, dif_pos hadmits.fresh, if_pos hadmits.unknown] at h
  rw [← Except.ok.inj h]

end IdentityDirectory

namespace DirectoryCall

variable {directory : IdentityDirectory} {call : DirectoryCall} {candidate : Identity}

/-- Discovery registers a hit's identity whenever the directory takes it. -/
theorem perform_process (discovery : Discovery) : perform directory (.process discovery) =
    (directory.register discovery.provisional).toOption.getD directory := by
  rw [perform, Discovery.process]
  by_cases hgiven : discovery.provisional.taxIdText = ""
  · rw [if_neg (not_not.mpr hgiven), IdentityDirectory.register, if_pos hgiven,
      IdentityDirectory.resolve]
    rfl
  · rw [if_pos hgiven]
    cases hregister : directory.register discovery.provisional with
    | ok next =>
        have hunknown := (IdentityDirectory.register_isOk.mp ⟨next, hregister⟩).unknown
        have hresolve : directory.resolve discovery.provisional =
            .ok ⟨.new, .keepSeparate, []⟩ := by
          rw [IdentityDirectory.resolve, if_neg hgiven, hunknown]
        rw [hresolve]
        simp only [bind, Except.bind, Discovery.identify, if_true, hregister]
        rfl
    | error refused =>
        cases hresolve : directory.resolve discovery.provisional with
        | error error => rfl
        | ok resolution =>
            simp only [bind, Except.bind, Discovery.identify]
            by_cases hmatch : resolution.matching = .new
            · rw [if_pos hmatch, hregister]
              rfl
            · rw [if_neg hmatch]
              rfl

theorem perform_eq (directory : IdentityDirectory) (call : DirectoryCall) :
    call.perform directory = (call.offered.bind fun candidate =>
      (directory.register candidate).toOption).getD directory := by
  cases call with
  | register candidate => rfl
  | process discovery => exact perform_process discovery
  | registerNew arguments =>
      rw [perform, IdentityDirectory.registerNew, offered]
      by_cases hnamed : arguments.candidate.canonicalName = ""
      · rw [if_pos hnamed, if_pos hnamed]
        rfl
      · rw [if_neg hnamed, if_neg hnamed]
        rfl

/-- A call adds the identity that it offers, when the directory admits it. -/
theorem perform_admitted (hoffered : call.offered = some candidate)
    (hadmits : directory.Admits candidate) :
    (call.perform directory).identities = directory.identities ++ [candidate] := by
  obtain ⟨next, hnext⟩ := IdentityDirectory.register_isOk.mpr hadmits
  rw [perform_eq, hoffered, Option.bind_some, hnext]
  exact IdentityDirectory.register_eq_ok hnext

/-- It changes nothing else. -/
theorem perform_cases (directory : IdentityDirectory) (call : DirectoryCall) :
    (∃ candidate, call.offered = some candidate ∧ directory.Admits candidate) ∨
      call.perform directory = directory := by
  rw [perform_eq]
  cases hoffered : call.offered with
  | none => exact Or.inr rfl
  | some candidate =>
      rw [Option.bind_some]
      cases hregister : directory.register candidate with
      | error refused => exact Or.inr rfl
      | ok next =>
          left
          exact ⟨candidate, rfl, IdentityDirectory.register_isOk.mp ⟨next, hregister⟩⟩

theorem after_concat (past : List DirectoryCall) (call : DirectoryCall) :
    after (past ++ [call]) = call.perform (after past) := by
  rw [after, after, List.foldl_append]
  rfl

end DirectoryCall

namespace IdentityDirectory

/-- What later merges rely on. -/
structure KeepsTaxIds (directory : IdentityDirectory) : Prop where
  unique : directory.identities.Pairwise fun a b => strip a.taxIdText ≠ strip b.taxIdText
  named : ∀ identity ∈ directory.identities, PyText.blank identity.taxIdText = false
  found : ∀ identity ∈ directory.identities,
    identity ∈ directory.findByTaxId identity.taxIdText
  resolves : ∀ candidate, ∃ resolution, directory.resolve candidate = .ok resolution

/-- What the registrations alone see to: a later tax id, once trimmed, is none of those
that were stored before. -/
structure Registered (directory : IdentityDirectory) : Prop where
  given : ∀ identity ∈ directory.identities, identity.taxIdText ≠ ""
  apart : directory.identities.Pairwise fun a b => a.taxId ≠ some (strip b.taxIdText)

variable {directory next : IdentityDirectory} {candidate : Identity}

theorem registered_empty : Registered empty := by
  constructor
  · intro identity hidentity
    cases hidentity
  · exact List.Pairwise.nil

theorem Registered.admitted (h : directory.Registered) (hadmits : directory.Admits candidate)
    (hnext : next.identities = directory.identities ++ [candidate]) : next.Registered := by
  constructor
  · intro identity hidentity
    rw [hnext, List.mem_append, List.mem_singleton] at hidentity
    rcases hidentity with hold | rfl
    · exact h.given identity hold
    · exact hadmits.given
  · rw [hnext, List.pairwise_append]
    constructor
    · exact h.apart
    · constructor
      · exact List.pairwise_singleton _ _
      · intro identity hold fresh hfresh hsame
        obtain rfl := List.mem_singleton.mp hfresh
        by_cases hblank : strip fresh.taxIdText = ""
        · apply h.given identity hold
          rw [Identity.taxIdText, hsame, hblank]
          rfl
        · have hfound := mem_findByTaxId.mpr ⟨hblank, hold, hsame⟩
          rw [hadmits.unknown] at hfound
          cases hfound

/-- At most one identity has a tax id that is trimmed. -/
theorem Registered.resolves (h : directory.Registered) (candidate : Identity) :
    ∃ resolution, directory.resolve candidate = .ok resolution := by
  unfold resolve
  split
  · exact ⟨_, rfl⟩
  · split
    · exact ⟨_, rfl⟩
    · split
      · exact ⟨_, rfl⟩
      · exact ⟨_, rfl⟩
    · rename_i hnone hone
      exfalso
      cases hfound : directory.findByTaxId candidate.taxIdText with
      | nil => exact hnone hfound
      | cons first others =>
          cases others with
          | nil => exact hone first hfound
          | cons second others =>
              have hfirst := mem_findByTaxId.mp (hfound ▸ List.mem_cons_self)
              have hsecond := mem_findByTaxId.mp
                (hfound ▸ List.mem_cons_of_mem first List.mem_cons_self)
              have hsublist : (directory.findByTaxId candidate.taxIdText).Sublist
                  directory.identities := by
                rw [findByTaxId, if_neg hfirst.1]
                exact List.filter_sublist
              rw [hfound] at hsublist
              have happart := (List.pairwise_cons.mp (h.apart.sublist hsublist)).1 second
                List.mem_cons_self
              have hsame : second.taxIdText = strip candidate.taxIdText := by
                rw [Identity.taxIdText, hsecond.2.2]
                rfl
              rw [hsame, PyText.strip_strip] at happart
              exact happart hfirst.2.2

/-- The directory is sound exactly when all that it stores is trimmed. -/
theorem Registered.keepsTaxIds_iff (h : directory.Registered) : directory.KeepsTaxIds ↔
    ∀ identity ∈ directory.identities, strip identity.taxIdText = identity.taxIdText := by
  constructor
  · intro hkeeps identity hidentity
    have hfound := (mem_findByTaxId.mp (hkeeps.found identity hidentity)).2.2
    rw [Identity.taxIdText, hfound, Option.getD_some, PyText.strip_strip]
  · intro htrimmed
    have hstored : ∀ identity ∈ directory.identities,
        identity.taxId = some (strip identity.taxIdText) := by
      intro identity hidentity
      have hgiven := h.given identity hidentity
      rw [htrimmed identity hidentity]
      unfold Identity.taxIdText at hgiven ⊢
      cases htaxId : identity.taxId with
      | none =>
          rw [htaxId] at hgiven
          exact absurd rfl hgiven
      | some taxId => rfl
    have hnamed : ∀ identity ∈ directory.identities, strip identity.taxIdText ≠ "" := by
      intro identity hidentity
      rw [htrimmed identity hidentity]
      exact h.given identity hidentity
    constructor
    · apply h.apart.imp_of_mem
      intro a b ha hb happart hsame
      apply happart
      rw [hstored a ha, hsame]
    · intro identity hidentity
      have hname := hnamed identity hidentity
      rwa [ne_eq, PyText.strip_eq_empty, Bool.not_eq_true] at hname
    · intro identity hidentity
      exact mem_findByTaxId.mpr
        ⟨hnamed identity hidentity, hidentity, hstored identity hidentity⟩
    · exact h.resolves

end IdentityDirectory

namespace DirectoryCall

/-- The identity that a call registers has no white space around its tax id. -/
def Tidy (directory : IdentityDirectory) (call : DirectoryCall) : Prop :=
  ∀ candidate, call.offered = some candidate → directory.Admits candidate →
    strip candidate.taxIdText = candidate.taxIdText

variable {calls past : List DirectoryCall}

theorem registered_after (calls : List DirectoryCall) : (after calls).Registered := by
  induction calls using List.reverseRecOn with
  | nil => exact IdentityDirectory.registered_empty
  | append_singleton past call ih =>
      rw [after_concat]
      rcases perform_cases (after past) call with ⟨candidate, hoffered, hadmits⟩ | hsame
      · exact ih.admitted hadmits (perform_admitted hoffered hadmits)
      · rw [hsame]
        exact ih

theorem trimmed_after (h : ∀ past call, past ++ [call] <+: calls → call.Tidy (after past))
    (hpast : past <+: calls) : ∀ identity ∈ (after past).identities,
      strip identity.taxIdText = identity.taxIdText := by
  induction past using List.reverseRecOn with
  | nil =>
      intro identity hidentity
      cases hidentity
  | append_singleton past call ih =>
      have hold := ih ((List.prefix_append past [call]).trans hpast)
      rw [after_concat]
      rcases perform_cases (after past) call with ⟨candidate, hoffered, hadmits⟩ | hsame
      · intro identity hidentity
        rw [perform_admitted hoffered hadmits, List.mem_append, List.mem_singleton] at hidentity
        rcases hidentity with hidentity | rfl
        · exact hold identity hidentity
        · exact h past call hpast _ hoffered hadmits
      · rw [hsame]
        exact hold

/-- Over a run the tax ids stay unique and are found exactly when every identity that is
registered comes with a trimmed tax id. -/
theorem tax_ids_kept_iff (calls : List DirectoryCall) :
    (∀ past, past <+: calls → (after past).KeepsTaxIds) ↔
      ∀ past call, past ++ [call] <+: calls → call.Tidy (after past) := by
  constructor
  · intro hkeeps past call hpast candidate hoffered hadmits
    have htrimmed := (registered_after (past ++ [call])).keepsTaxIds_iff.mp (hkeeps _ hpast)
    apply htrimmed
    rw [after_concat, perform_admitted hoffered hadmits]
    exact List.mem_append_right _ List.mem_cons_self
  · intro htidy past hpast
    exact (registered_after past).keepsTaxIds_iff.mpr (trimmed_after htidy hpast)

def spacedIdentity : Identity :=
  ⟨"identity-1", "Alpha", .identified, some " 7700000000", none⟩

def plainIdentity : Identity :=
  ⟨"identity-2", "Alpha", .identified, some "7700000000", none⟩

/-- A tax id that is registered with a space before it is registered once more without. -/
theorem tax_id_registered_twice : ¬ ∀ calls : List DirectoryCall,
    (after calls).KeepsTaxIds := by
  intro hclaim
  have hkeeps := hclaim [.register spacedIdentity, .register plainIdentity]
  have hunique := (List.pairwise_cons.mp hkeeps.unique).1 plainIdentity (by decide)
  exact hunique (by decide)

end DirectoryCall

end ShemaPlatform
