import SaasFoundation.Admin.AdminMutation

/-!
# `admin/admin-store.service.ts`

The store writes any table through the statements of its resource, in one
transaction with the audit row.
-/

namespace SaasFoundation

open Relational Transaction

/-- A value of a text or an integer column. -/
inductive Cell where
  | text (value : String)
  | integer (value : Nat)
  deriving DecidableEq, Repr

/-- `Object.entries(values)` of a request body; `none` is `undefined`. -/
abbrev Values := List (String × Option Cell)

/-- A `ResourceDefinition` as far as writes use it.  Its entity is given by the
statements on the table, which return the row, if any. -/
structure WritableResource (σ ω ℓ δ ρ : Type) where
  writable : List String
  eventPrefix : String
  insert : List (String × Cell) → Program σ ω ℓ δ Failure (Option ρ)
  update : Nat → List (String × Cell) → Program σ ω ℓ δ Failure (Option ρ)
  /-- The affected count. -/
  delete : Nat → Program σ ω ℓ δ Failure Nat

namespace AdminStore

variable {σ ω ℓ δ ρ : Type}

/-- The entries that pass the allowlist of the resource. -/
def changes (resource : WritableResource σ ω ℓ δ ρ) (values : Values) :
    List (String × Cell) :=
  (values.filter fun entry =>
      entry.1 ≠ "id" ∧ entry.1 ∈ resource.writable).filterMap fun entry =>
    entry.2.map fun cell => (entry.1, cell)

/-- What the allowlist lets through. -/
theorem mem_changes {resource : WritableResource σ ω ℓ δ ρ} {values : Values}
    {entry : String × Cell} :
    entry ∈ changes resource values ↔
      (entry.1, some entry.2) ∈ values ∧ entry.1 ≠ "id" ∧
        entry.1 ∈ resource.writable := by
  obtain ⟨name, cell⟩ := entry
  simp only [changes, List.mem_filterMap, List.mem_filter, decide_eq_true_eq,
    Option.map_eq_some_iff, Prod.mk.injEq]
  constructor
  · rintro ⟨⟨_, given⟩, ⟨listed, allowed⟩, _, rfl, rfl, rfl⟩
    exact ⟨listed, allowed⟩
  · rintro ⟨listed, allowed⟩
    exact ⟨(name, some cell), ⟨listed, allowed⟩, cell, rfl, rfl, rfl⟩

/-- A column outside the allowlist is not assigned. -/
theorem lookup_changes_of_forbidden {resource : WritableResource σ ω ℓ δ ρ}
    {values : Values} {name : String} (forbidden : name ∉ resource.writable) :
    (changes resource values).lookup name = none := by
  apply List.lookup_eq_none_iff.mpr
  intro entry listed
  rw [bne_iff_ne]
  rintro rfl
  exact forbidden (mem_changes.mp listed).2.2

variable [Audited σ ω δ]

/-- The row a statement returned is recorded and answered. -/
def answer [Keyed ρ Nat] (resource : WritableResource σ ω ℓ δ ρ) (actor : Nat)
    (id : Option Nat) : Option ρ → Program σ ω ℓ δ Failure ρ
  | none => .fail .notFound
  | some row => do
      AdminMutationService.audit actor
        (resource.eventPrefix ++ if id.isNone then ".created" else ".updated")
        (toString (key row))
      pure row

def save [Keyed ρ Nat] (resource : WritableResource σ ω ℓ δ ρ)
    (values : Values) (actor : Nat) (id : Option Nat) :
    Program σ ω ℓ δ Failure ρ :=
  let changes := changes resource values
  if changes = [] then .fail (.badRequest "No changes supplied")
  else
    AdminMutationService.mutate do
      let row ← match id with
        | none => resource.insert changes
        | some id => resource.update id changes
      answer resource actor id row

def remove (resource : WritableResource σ ω ℓ δ ρ) (id actor : Nat) :
    Program σ ω ℓ δ Failure Unit :=
  AdminMutationService.mutate do
    let affected ← resource.delete id
    if affected = 0 then .fail .notFound
    else
      AdminMutationService.audit actor (resource.eventPrefix ++ ".deleted")
        (toString id)

variable {resource : WritableResource σ ω ℓ δ ρ} {values : Values}
  {actor : Nat} {id : Option Nat}

open AdminMutationService

/-- Whatever goes into the table, a save is one transaction. -/
theorem atomic_save [Keyed ρ Nat]
    (inserts : (resource.insert (changes resource values)).Inside)
    (updates : ∀ known,
      (resource.update known (changes resource values)).Inside) :
    (save resource values actor id).Atomic := by
  unfold save
  dsimp only
  split
  · trivial
  apply atomic_mutate
  have recorded (found : Option ρ) :
      (answer resource actor id found).Inside := by
    cases found with
    | none => trivial
    | some row => exact inside_audit.bind fun _ => trivial
  cases id with
  | none => exact inserts.bind recorded
  | some known => exact (updates known).bind recorded

theorem atomic_remove {known : Nat} (deletes : (resource.delete known).Inside) :
    (remove resource known actor).Atomic := by
  apply atomic_mutate
  apply deletes.bind
  intro affected
  split
  · trivial
  · exact inside_audit

section Publishing

variable [WriteSet ω σ] {legal : List (δ × Nat) → ω → Prop}
  {owned : List (δ × Nat)} {writes : ω}

/-- A save publishes the row that its statement returns, with the audit row
for it. -/
theorem publishes_save [Keyed ρ Nat] (stored : ρ → List (δ × Nat) → ω → Prop)
    (inserts : id = none →
      (resource.insert (changes resource values)).Publishes legal
        (fun found owned writes => ∀ row ∈ found, stored row owned writes) owned
        writes)
    (updates : ∀ known, id = some known →
      (resource.update known (changes resource values)).Publishes legal
        (fun found owned writes => ∀ row ∈ found, stored row owned writes) owned
        writes)
    (recorded : ∀ row owned writes, stored row owned writes →
      (audit actor
        (resource.eventPrefix ++ if id.isNone then ".created" else ".updated")
        (toString (key row)) : Program σ ω ℓ δ Failure Unit).Publishes legal
          (fun _ => legal) owned writes) :
    (save resource values actor id).Publishes legal (fun _ _ _ => True) owned
      writes := by
  unfold save
  dsimp only
  split
  · trivial
  apply publishes_mutate
  have finished (found : Option ρ) (later : List (δ × Nat)) (written : ω)
      (kept : ∀ row ∈ found, stored row later written) :
      (answer resource actor id found).Publishes legal (fun _ => legal) later
        written := by
    cases found with
    | none => trivial
    | some row =>
        apply (recorded row later written (kept row rfl)).bind
        exact fun _ _ _ legal => legal
  cases id with
  | none => exact (inserts rfl).bind finished
  | some known => exact (updates known rfl).bind finished

theorem publishes_remove {known : Nat} (dropped : List (δ × Nat) → ω → Prop)
    (deletes : (resource.delete known).Publishes legal
      (fun affected owned writes => affected ≠ 0 → dropped owned writes) owned
      writes)
    (recorded : ∀ owned writes, dropped owned writes →
      (audit actor (resource.eventPrefix ++ ".deleted") (toString known) :
        Program σ ω ℓ δ Failure Unit).Publishes legal (fun _ => legal) owned
          writes) :
    (remove resource known actor).Publishes legal (fun _ _ _ => True) owned
      writes := by
  apply publishes_mutate
  apply deletes.bind
  intro affected later written kept
  split
  · trivial
  · rename_i some
    exact recorded later written (kept some)

end Publishing

end AdminStore

end SaasFoundation
