import SaasFoundation.Utils.Record

/-!
# `utils/deep-resolver.ts`

Promises are those that fulfil.  Primitives are opaque.
-/

namespace SaasFoundation

inductive Value (π : Type) where
  | primitive (content : π)
  | date (time : Int)
  | array (items : List (Value π))
  | object (entries : List (String × Value π))
  | promise (result : Value π)

namespace Value

variable {π : Type}

/-- `await`: a promise that is resolved with a promise follows it. -/
def await : Value π → Value π
  | .promise result => await result
  | value => value

end Value

/-- `resolvedObject[key] = value`: the name of the prototype is not an own
property afterwards. -/
def assign {α : Type} (key : String) (value : α)
    (entries : List (String × α)) : List (String × α) :=
  if key = "__proto__" then entries else Record.define key value entries

mutual

variable {π : Type}

def deepResolvePromises : Value π → Value π
  | .promise result => result.await
  | .array items => .array (resolveItems items)
  | .date time => .date time
  | .object entries => .object (resolveEntries [] entries)
  | .primitive content => .primitive content

/-- `Promise.all(input.map(deepResolvePromises))`. -/
def resolveItems : List (Value π) → List (Value π)
  | [] => []
  | item :: rest => deepResolvePromises item :: resolveItems rest

/-- The loop over `Object.entries(input)`. -/
def resolveEntries (resolvedObject : List (String × Value π)) :
    List (String × Value π) → List (String × Value π)
  | [] => resolvedObject
  | (key, value) :: rest =>
      resolveEntries (assign key (deepResolvePromises value) resolvedObject)
        rest

end

namespace Value

variable {π : Type}

mutual

/-- The value with every promise replaced by its result, all the way down. -/
def resolved : Value π → Value π
  | .promise result => result.resolved
  | .array items => .array (resolvedItems items)
  | .date time => .date time
  | .object entries => .object (resolvedEntries entries)
  | .primitive content => .primitive content

def resolvedItems : List (Value π) → List (Value π)
  | [] => []
  | item :: rest => item.resolved :: resolvedItems rest

def resolvedEntries : List (String × Value π) → List (String × Value π)
  | [] => []
  | (key, value) :: rest => (key, value.resolved) :: resolvedEntries rest

end

/-- There is no promise at any depth. -/
inductive PromiseFree : Value π → Prop where
  | primitive (content : π) : PromiseFree (.primitive content)
  | date (time : Int) : PromiseFree (.date time)
  | array {items : List (Value π)} (each : ∀ item ∈ items, PromiseFree item) :
      PromiseFree (.array items)
  | object {entries : List (String × Value π)}
      (each : ∀ entry ∈ entries, PromiseFree entry.2) :
      PromiseFree (.object entries)

/-- The properties of every object have different names. -/
inductive Proper : Value π → Prop where
  | primitive (content : π) : Proper (.primitive content)
  | date (time : Int) : Proper (.date time)
  | array {items : List (Value π)} (each : ∀ item ∈ items, Proper item) :
      Proper (.array items)
  | object {entries : List (String × Value π)}
      (distinct : (entries.map Prod.fst).Nodup)
      (each : ∀ entry ∈ entries, Proper entry.2) : Proper (.object entries)
  | promise {result : Value π} (inner : Proper result) :
      Proper (.promise result)

/-- Promises give values without promises, and no object around them has the
name of the prototype as a property. -/
inductive Shallow : Value π → Prop where
  | primitive (content : π) : Shallow (.primitive content)
  | date (time : Int) : Shallow (.date time)
  | array {items : List (Value π)} (each : ∀ item ∈ items, Shallow item) :
      Shallow (.array items)
  | object {entries : List (String × Value π)}
      (names : "__proto__" ∉ entries.map Prod.fst)
      (each : ∀ entry ∈ entries, Shallow entry.2) : Shallow (.object entries)
  | promise {result : Value π} (free : PromiseFree result.await) :
      Shallow (.promise result)

/-- Induction with a hypothesis for every element. -/
@[elab_as_elim]
theorem induction {motive : Value π → Prop}
    (primitive : ∀ content, motive (.primitive content))
    (date : ∀ time, motive (.date time))
    (array : ∀ items, (∀ item ∈ items, motive item) → motive (.array items))
    (object : ∀ entries, (∀ entry ∈ entries, motive entry.2) →
      motive (.object entries))
    (promise : ∀ result, motive result → motive (.promise result))
    (value : Value π) : motive value :=
  @Value.rec π motive (fun items => ∀ item ∈ items, motive item)
    (fun entries => ∀ entry ∈ entries, motive entry.2)
    (fun entry => motive entry.2) primitive date array object promise
    (fun _ member => absurd member List.not_mem_nil)
    (fun _ _ here later => List.forall_mem_cons.mpr ⟨here, later⟩)
    (fun _ member => absurd member List.not_mem_nil)
    (fun _ _ here later => List.forall_mem_cons.mpr ⟨here, later⟩)
    (fun _ _ inner => inner) value

theorem resolveItems_eq (items : List (Value π)) :
    resolveItems items = items.map deepResolvePromises := by
  induction items with
  | nil => rfl
  | cons item rest ih => rw [resolveItems, ih, List.map_cons]

theorem resolvedItems_eq (items : List (Value π)) :
    resolvedItems items = items.map resolved := by
  induction items with
  | nil => rfl
  | cons item rest ih => rw [resolvedItems, ih, List.map_cons]

theorem resolvedEntries_eq (entries : List (String × Value π)) :
    resolvedEntries entries =
      entries.map fun entry => (entry.1, entry.2.resolved) := by
  induction entries with
  | nil => rfl
  | cons entry rest ih => rw [resolvedEntries, ih, List.map_cons]

/-- The loop copies the properties in order, the name of the prototype
left out. -/
theorem resolveEntries_eq {entries done : List (String × Value π)}
    (distinct : ((done ++ entries).map Prod.fst).Nodup) :
    resolveEntries done entries =
      done ++ (entries.filter fun entry => entry.1 ≠ "__proto__").map
        fun entry => (entry.1, deepResolvePromises entry.2) := by
  induction entries generalizing done with
  | nil => simp [resolveEntries]
  | cons entry rest ih =>
      obtain ⟨key, value⟩ := entry
      unfold resolveEntries assign
      by_cases proto : key = "__proto__"
      · have shorter : ((done ++ rest).map Prod.fst).Nodup :=
          distinct.sublist
            (((List.sublist_cons_self _ rest).append_left done).map Prod.fst)
        rw [if_pos proto, ih shorter]
        simp [proto]
      · have absent : key ∉ done.map Prod.fst := by
          rw [List.map_append, List.map_cons] at distinct
          exact fun member => List.disjoint_of_nodup_append distinct member
            List.mem_cons_self
        have moved : (((done ++ [(key, deepResolvePromises value)]) ++
            rest).map Prod.fst).Nodup := by
          simpa using distinct
        rw [if_neg proto, Record.define_of_absent absent, ih moved]
        simp [proto]

theorem resolved_promiseFree (value : Value π) : value.resolved.PromiseFree := by
  induction value using induction with
  | primitive content => exact .primitive content
  | date time => exact .date time
  | array items ih =>
      unfold resolved
      rw [resolvedItems_eq]
      refine .array fun item listed => ?_
      obtain ⟨source, member, rfl⟩ := List.mem_map.mp listed
      exact ih source member
  | object entries ih =>
      unfold resolved
      rw [resolvedEntries_eq]
      refine .object fun entry listed => ?_
      obtain ⟨source, member, rfl⟩ := List.mem_map.mp listed
      exact ih source member
  | promise result ih => exact ih

theorem PromiseFree.resolved_eq {value : Value π} (free : value.PromiseFree) :
    value.resolved = value := by
  induction free with
  | primitive | date => rfl
  | @array items each ih =>
      rw [resolved, resolvedItems_eq, List.map_congr_left ih, List.map_id']
  | @object entries each ih =>
      have same : ∀ entry ∈ entries,
          (entry.1, entry.2.resolved) = entry :=
        fun entry member => Prod.ext rfl (ih entry member)
      rw [resolved, resolvedEntries_eq, List.map_congr_left same, List.map_id']

theorem resolved_await (value : Value π) :
    value.await.resolved = value.resolved := by
  induction value using induction with
  | promise result ih => exact ih
  | primitive | date | array | object => rfl

theorem deepResolve_object {entries : List (String × Value π)}
    (distinct : (entries.map Prod.fst).Nodup) :
    deepResolvePromises (.object entries) =
      .object ((entries.filter fun entry => entry.1 ≠ "__proto__").map
        fun entry => (entry.1, deepResolvePromises entry.2)) := by
  have loop := @resolveEntries_eq π entries [] distinct
  rw [List.nil_append] at loop
  rw [deepResolvePromises, loop]

theorem deepResolve_array {items : List (Value π)} :
    deepResolvePromises (.array items) =
      .array (items.map deepResolvePromises) := by
  rw [deepResolvePromises, resolveItems_eq]

theorem Shallow.deepResolve_eq {value : Value π} (shallow : value.Shallow)
    (proper : value.Proper) : deepResolvePromises value = value.resolved := by
  induction shallow with
  | primitive | date => rfl
  | array each ih =>
      cases proper with
      | array properEach =>
          have same := fun item member =>
            ih item member (properEach item member)
          rw [deepResolve_array, resolved, resolvedItems_eq,
            List.map_congr_left same]
  | @object entries names each ih =>
      cases proper with
      | object distinct properEach =>
          have all : ∀ entry ∈ entries,
              decide (entry.1 ≠ "__proto__") = true := by
            intro entry member
            refine decide_eq_true fun same => names ?_
            exact List.mem_map.mpr ⟨entry, member, same⟩
          have same : ∀ entry ∈ entries,
              (entry.1, deepResolvePromises entry.2) =
                (entry.1, entry.2.resolved) :=
            fun entry member => Prod.ext rfl
              (ih entry member (properEach entry member))
          rw [deepResolve_object distinct, List.filter_eq_self.mpr all,
            resolved, resolvedEntries_eq, List.map_congr_left same]
  | @promise result free =>
      rw [deepResolvePromises, resolved, ← resolved_await, free.resolved_eq]

theorem shallow_of_deepResolve_eq {value : Value π} (proper : value.Proper)
    (same : deepResolvePromises value = value.resolved) : value.Shallow := by
  induction proper with
  | primitive content => exact .primitive content
  | date time => exact .date time
  | array properEach ih =>
      rw [deepResolve_array, resolved, resolvedItems_eq, Value.array.injEq,
        List.map_inj_left] at same
      exact .array fun item member => ih item member (same item member)
  | @object entries distinct properEach ih =>
      rw [deepResolve_object distinct, resolved, resolvedEntries_eq,
        Value.object.injEq] at same
      have length := congrArg List.length same
      rw [List.length_map, List.length_map] at length
      have all : entries.filter (fun entry => entry.1 ≠ "__proto__") =
          entries := List.filter_sublist.eq_of_length length
      rw [all, List.map_inj_left] at same
      refine .object (fun member => ?_) fun entry member =>
        ih entry member (congrArg Prod.snd (same entry member))
      obtain ⟨entry, listed, named⟩ := List.mem_map.mp member
      exact of_decide_eq_true (List.filter_eq_self.mp all entry listed) named
  | @promise result inner ih =>
      have free := resolved_promiseFree result
      rw [deepResolvePromises, resolved] at same
      rw [← same] at free
      exact .promise free

/-- What is expected of the function on a value. -/
structure Resolves (value : Value π) : Prop where
  promiseFree : (deepResolvePromises value).PromiseFree
  resolved : deepResolvePromises value = value.resolved
  copies : value.PromiseFree → deepResolvePromises value = value

/-- The function does its work when no promise gives a value with promises
in it and no object it copies has a property `__proto__`. -/
theorem resolves_iff (value : Value π) (proper : value.Proper) :
    Resolves value ↔ value.Shallow := by
  constructor
  · exact fun resolves => shallow_of_deepResolve_eq proper resolves.resolved
  · intro shallow
    have same := shallow.deepResolve_eq proper
    refine ⟨?_, same, fun free => same.trans free.resolved_eq⟩
    rw [same]
    exact resolved_promiseFree value

namespace Sample

/-- `{ user: Promise<{ name }>, tags: [Promise] }`. -/
def entity : Value String :=
  .object [("user", .promise (.object [("name", .primitive "a")])),
    ("tags", .array [.promise (.primitive "b"), .date 0])]

/-- `{ user: Promise<{ role: Promise<{ name }> }> }`: a lazy relation of a lazy
relation. -/
def relation : Value String :=
  .object [("user", .promise (.object
    [("role", .promise (.object [("name", .primitive "a")]))]))]

theorem proper_entity : entity.Proper := by
  refine .object (by decide) fun entry member => ?_
  simp only [List.mem_cons, List.not_mem_nil, or_false] at member
  obtain rfl | rfl := member
  · refine .promise (.object (by decide) fun entry member => ?_)
    obtain rfl := List.mem_singleton.mp member
    exact .primitive "a"
  · refine .array fun item member => ?_
    simp only [List.mem_cons, List.not_mem_nil, or_false] at member
    obtain rfl | rfl := member
    · exact .promise (.primitive "b")
    · exact .date 0

theorem proper_relation : relation.Proper := by
  refine .object (by decide) fun entry member => ?_
  obtain rfl := List.mem_singleton.mp member
  refine .promise (.object (by decide) fun entry member => ?_)
  obtain rfl := List.mem_singleton.mp member
  refine .promise (.object (by decide) fun entry member => ?_)
  obtain rfl := List.mem_singleton.mp member
  exact .primitive "a"

end Sample

theorem resolves_iff_entity :
    Resolves Sample.entity ↔ Sample.entity.Shallow :=
  resolves_iff Sample.entity Sample.proper_entity

/-- The role is still a promise. -/
theorem promise_in_promise_stays :
    Sample.relation.Proper ∧ ¬Resolves Sample.relation := by
  refine ⟨Sample.proper_relation, fun resolves => ?_⟩
  have same := resolves.resolved
  simp [Sample.relation, deepResolvePromises, resolveEntries, assign,
    Record.define, await, resolved, resolvedEntries] at same

end Value

end SaasFoundation
