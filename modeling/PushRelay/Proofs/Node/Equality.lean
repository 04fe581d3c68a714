import PushRelay.Node.Equality

/-!
# PushRelay.Proofs.Node.Equality

Equality of dynamic values is a partial equivalence.

Arrays and objects that are the same thing are equal without a look at what
they hold; others are equal if their items or members are.  Both ways agree
only if what has one identity is one thing (`Consistent`), so that a value
may be put in the place of the one it shares its identity with.

Only a number that is no number is not equal to itself.  A value that merely
holds one is equal to its copies, and to nothing that shares no array and no
object with it (`Apart`), however alike it looks.
-/

namespace PushRelay

namespace Node

variable {x y z : Node} {i j : Identity} {xs ys : List Node} {ms ns : List (String × Node)}

/-! ## Values within values -/

/-- Induction over the items of arrays and the members of objects. -/
@[elab_as_elim]
theorem nested_induction {motive : Node → Prop}
    (atom : ∀ x : Node, x.kind ≠ .array → x.kind ≠ .object → motive x)
    (array : ∀ i xs, (∀ x ∈ xs, motive x) → motive (.array i xs))
    (object : ∀ i ms, (∀ m ∈ ms, motive m.2) → motive (.object i ms)) : ∀ x, motive x
  | .array i xs => array i xs fun x _ => nested_induction atom array object x
  | .object i ms => object i ms fun (_, x) _ => nested_induction atom array object x
  | .undefined | .null => atom _ nofun nofun
  | .bool _ | .number _ | .string _ => atom _ nofun nofun
  | .function _ | .pattern .. | .date .. => atom _ nofun nofun
termination_by x => sizeOf x
decreasing_by
  · decreasing_tactic
  · next hmem =>
    have hlt := List.sizeOf_lt_of_mem hmem
    simp only [Prod.mk.sizeOf_spec] at hlt
    simp only [Node.object.sizeOf_spec]
    omega

mutual

/-- A value and all values within it. -/
def parts : Node → List Node
  | .array i xs => .array i xs :: partsOfItems xs
  | .object i ms => .object i ms :: partsOfMembers ms
  | x => [x]
termination_by structural x => x

def partsOfItems : List Node → List Node
  | [] => []
  | x :: xs => parts x ++ partsOfItems xs
termination_by structural xs => xs

def partsOfMembers : List (String × Node) → List Node
  | [] => []
  | (_, x) :: ms => parts x ++ partsOfMembers ms
termination_by structural ms => ms

end

/-- The parts of items are those of each of them. -/
theorem mem_partsOfItems : z ∈ partsOfItems xs ↔ ∃ x ∈ xs, z ∈ x.parts := by
  induction xs with
  | nil => simp [partsOfItems]
  | cons x xs ih => simp [partsOfItems, ih]

/-- The parts of members are those of each value. -/
theorem mem_partsOfMembers : z ∈ partsOfMembers ms ↔ ∃ m ∈ ms, z ∈ m.2.parts := by
  induction ms with
  | nil => simp [partsOfMembers]
  | cons m ms ih => simp [partsOfMembers, ih]

/-- A node is a part of itself. -/
theorem mem_parts_self (x : Node) : x ∈ x.parts := by
  cases x <;> simp [parts]

/-- The parts of an array are the array and the parts of its items. -/
theorem mem_parts_array : z ∈ (array i xs).parts ↔ z = .array i xs ∨ ∃ x ∈ xs, z ∈ x.parts := by
  rw [parts, List.mem_cons, mem_partsOfItems]

/-- The parts of an object are the object and the parts of its values. -/
theorem mem_parts_object :
    z ∈ (object i ms).parts ↔ z = .object i ms ∨ ∃ m ∈ ms, z ∈ m.2.parts := by
  rw [parts, List.mem_cons, mem_partsOfMembers]

/-- A value that is no array and no object has no parts but itself. -/
theorem parts_atom (harray : x.kind ≠ .array) (hobject : x.kind ≠ .object) : x.parts = [x] := by
  cases x with
  | array i xs => exact absurd rfl harray
  | object i ms => exact absurd rfl hobject
  | _ => rfl

/-- Parts of parts are parts. -/
theorem mem_parts_trans (hz : z ∈ y.parts) (hy : y ∈ x.parts) : z ∈ x.parts := by
  induction x using nested_induction with
  | atom x harray hobject =>
    rw [parts_atom harray hobject, List.mem_singleton] at hy
    rw [← hy]
    exact hz
  | array i xs ih =>
    cases mem_parts_array.mp hy with
    | inl hy =>
      rw [← hy]
      exact hz
    | inr hy =>
      obtain ⟨x, hx, hy⟩ := hy
      exact mem_parts_array.mpr (.inr ⟨x, hx, ih x hx hy⟩)
  | object i ms ih =>
    cases mem_parts_object.mp hy with
    | inl hy =>
      rw [← hy]
      exact hz
    | inr hy =>
      obtain ⟨m, hm, hy⟩ := hy
      exact mem_parts_object.mpr (.inr ⟨m, hm, ih m hm hy⟩)

/-! ## Values beside each other -/

/-- In every object the members ascend by name. -/
def Ordered (x : Node) : Prop := ∀ i ms, .object i ms ∈ x.parts → Entries.Ascending ms

theorem Ordered.items (h : (array i xs).Ordered) : ∀ x ∈ xs, x.Ordered :=
  fun x hx j ms hms => h j ms (mem_parts_array.mpr (.inr ⟨x, hx, hms⟩))

theorem Ordered.ascending (h : (object i ms).Ordered) : Entries.Ascending ms :=
  h i ms (mem_parts_self _)

theorem Ordered.members (h : (object i ms).Ordered) : ∀ m ∈ ms, m.2.Ordered :=
  fun m hm j ns hns => h j ns (mem_parts_object.mpr (.inr ⟨m, hm, hns⟩))

theorem mem_parts_item (hx : x ∈ xs) : x ∈ (array i xs).parts :=
  mem_parts_array.mpr (.inr ⟨x, hx, mem_parts_self x⟩)

theorem mem_parts_member {m : String × Node} (hm : m ∈ ms) : m.2 ∈ (object i ms).parts :=
  mem_parts_object.mpr (.inr ⟨m, hm, mem_parts_self m.2⟩)

theorem mem_parts_held {held : List Node} (hx : x ∈ held) : x ∈ held.flatMap parts :=
  List.mem_flatMap.mpr ⟨x, hx, mem_parts_self x⟩

/-- Values that may be held beside each other: their objects are ordered, and
arrays or objects with the same identity hold the same. -/
structure Consistent (held : List Node) : Prop where
  ordered : ∀ x ∈ held, x.Ordered
  array_unique : ∀ i xs ys, .array i xs ∈ held.flatMap parts → .array i ys ∈ held.flatMap parts →
    xs = ys
  object_unique : ∀ i ms ns, .object i ms ∈ held.flatMap parts →
    .object i ns ∈ held.flatMap parts → ms = ns

/-- Arrays with one identity have the same items. -/
theorem Consistent.items_eq {held : List Node} (h : Consistent held) (hx : array i xs ∈ held)
    (hy : array j ys ∈ held) (hij : i = j) : xs = ys := by
  subst hij
  exact h.array_unique i xs ys (mem_parts_held hx) (mem_parts_held hy)

/-- Objects with one identity have the same members. -/
theorem Consistent.members_eq {held : List Node} (h : Consistent held) (hx : object i ms ∈ held)
    (hy : object j ns ∈ held) (hij : i = j) : ms = ns := by
  subst hij
  exact h.object_unique i ms ns (mem_parts_held hx) (mem_parts_held hy)

/-! ## When arrays and objects are equal -/

/-- Two look-ups find something under the same keys, and equal values under
each. -/
structure Agree {κ : Type} (f g : κ → Option Node) : Prop where
  found : ∀ k, (f k).isSome = (g k).isSome
  equal : ∀ k x y, f k = some x → g k = some y → x.equals y = true

/-- Arrays have equal items under each index. -/
abbrev SameItems (xs ys : List Node) : Prop := Agree (fun k : Nat => xs[k]?) fun k => ys[k]?

/-- Objects have equal members under each name. -/
abbrev SameMembers (ms ns : List (String × Node)) : Prop :=
  Agree (Entries.find? · ms) (Entries.find? · ns)

section Agree

variable {κ : Type} {e f g : κ → Option Node}

/-- What the left side has, the right side has an equal of. -/
theorem Agree.exists_right (h : Agree f g) {k : κ} {x : Node} (hx : f k = some x) :
    ∃ y, g k = some y ∧ x.equals y = true := by
  have hsome : (g k).isSome := by
    rw [← h.found, hx]
    rfl
  obtain ⟨y, hy⟩ := Option.isSome_iff_exists.mp hsome
  exact ⟨y, hy, h.equal k x y hx hy⟩

/-- Agreement goes both ways if equality of the values does. -/
theorem Agree.symm (h : Agree f g)
    (hsymm : ∀ k x y, f k = some x → g k = some y → x.equals y = true → y.equals x = true) :
    Agree g f where
  found k := (h.found k).symm
  equal k y x hy hx := hsymm k x y hx hy (h.equal k x y hx hy)

/-- Agreement goes on if equality of the values does. -/
theorem Agree.trans (h : Agree e f) (h' : Agree f g)
    (htrans : ∀ k x y z, e k = some x → f k = some y → g k = some z →
      x.equals y = true → y.equals z = true → x.equals z = true) : Agree e g where
  found k := (h.found k).trans (h'.found k)
  equal k x z hx hz := by
    obtain ⟨y, hy, hxy⟩ := h.exists_right hx
    exact htrans k x y z hx hy hz hxy (h'.equal k y z hy hz)

end Agree

/-- Items are compared place by place. -/
theorem equalItems_iff : equalItems xs ys = true ↔ SameItems xs ys := by
  induction xs generalizing ys with
  | nil =>
    cases ys with
    | nil => exact iff_of_true rfl ⟨fun _ => rfl, nofun⟩
    | cons y ys => exact iff_of_false nofun fun h => nomatch h.found 0
  | cons x xs ih =>
    cases ys with
    | nil => exact iff_of_false nofun fun h => nomatch h.found 0
    | cons y ys =>
      rw [equalItems, Bool.and_eq_true, ih]
      constructor
      · intro h
        obtain ⟨hhead, htail⟩ := h
        constructor
        · intro k
          cases k with
          | zero => rfl
          | succ k => exact htail.found k
        · intro k x' y' hx hy
          cases k with
          | zero =>
            cases hx
            cases hy
            exact hhead
          | succ k => exact htail.equal k x' y' hx hy
      · intro h
        exact ⟨h.equal 0 x y rfl rfl, fun k => h.found (k + 1), fun k => h.equal (k + 1)⟩

/-- Members are compared name by name, from the left. -/
theorem equalMembers_iff :
    equalMembers ms ns = true ↔
      ∀ m ∈ ms, ∃ y, Entries.find? m.1 ns = some y ∧ m.2.equals y = true := by
  induction ms with
  | nil => simp [equalMembers]
  | cons m ms ih =>
    rw [equalMembers, Bool.and_eq_true, ih, List.forall_mem_cons]
    cases Entries.find? m.1 ns with
    | none => simp
    | some y => simp

/-- Looking up the names of either object in the other one is to look them
all up in both. -/
theorem sameMembers_iff (hms : Entries.Ascending ms) :
    SameMembers ms ns ↔
      (∀ n ∈ ns, (Entries.find? n.1 ms).isSome) ∧
        ∀ m ∈ ms, ∃ y, Entries.find? m.1 ns = some y ∧ m.2.equals y = true := by
  constructor
  · intro h
    constructor
    · intro n hn
      rw [h.found n.1]
      exact Entries.find?_isSome_iff.mpr (List.mem_map_of_mem hn)
    · intro m hm
      exact h.exists_right (hms.mem_iff.mp hm)
  · intro h
    obtain ⟨hnames, hmembers⟩ := h
    have hright : ∀ name x, Entries.find? name ms = some x →
        ∃ y, Entries.find? name ns = some y ∧ x.equals y = true :=
      fun name x hx => hmembers _ (Entries.mem_of_find?_eq_some hx)
    constructor
    · intro name
      rw [Bool.eq_iff_iff]
      constructor
      · intro hsome
        obtain ⟨x, hx⟩ := Option.isSome_iff_exists.mp hsome
        obtain ⟨y, hy, -⟩ := hright name x hx
        exact Option.isSome_iff_exists.mpr ⟨y, hy⟩
      · intro hsome
        obtain ⟨y, hy⟩ := Option.isSome_iff_exists.mp hsome
        exact hnames _ (Entries.mem_of_find?_eq_some hy)
    · intro name x y hx hy
      obtain ⟨y', hy', hxy⟩ := hright name x hx
      rw [Option.some.inj (hy.symm.trans hy')]
      exact hxy

/-- Arrays are equal if they are one or have the same items. -/
theorem equals_array_iff :
    (array i xs).equals (array j ys) = true ↔ i = j ∨ SameItems xs ys := by
  rw [equals, Bool.or_eq_true, beq_iff_eq, equalItems_iff]

/-- Objects are equal if they are one or have the same members. -/
theorem equals_object_iff (hms : Entries.Ascending ms) :
    (object i ms).equals (object j ns) = true ↔
      i = j ∨ SameMembers ms ns := by
  rw [equals, Bool.or_eq_true, beq_iff_eq, Bool.and_eq_true, List.all_eq_true, equalMembers_iff,
    sameMembers_iff hms]

/-! ## Symmetry -/

/-- Equality goes both ways where names ascend. -/
theorem equals_symm (hx : x.Ordered) (hy : y.Ordered) (h : x.equals y = true) :
    y.equals x = true := by
  induction x using nested_induction generalizing y with
  | atom x harray hobject =>
    cases x with
    | array i xs => exact absurd rfl harray
    | object i ms => exact absurd rfl hobject
    | _ =>
      cases y <;> simp only [equals, beq_iff_eq, decide_eq_true_eq, Bool.false_eq_true] at h ⊢ <;>
        exact h.symm
  | array i xs ih =>
    cases y with
    | array j ys =>
      rw [equals_array_iff] at h ⊢
      refine h.imp Eq.symm fun h => h.symm fun k x y hxk hyk => ?_
      have hmem := List.mem_of_getElem? hxk
      exact ih x hmem (hx.items x hmem) (hy.items y (List.mem_of_getElem? hyk))
    | _ => contradiction
  | object i ms ih =>
    cases y with
    | object j ns =>
      rw [equals_object_iff hx.ascending] at h
      rw [equals_object_iff hy.ascending]
      refine h.imp Eq.symm fun h => h.symm fun name x y hxn hyn => ?_
      have hmem := Entries.mem_of_find?_eq_some hxn
      exact ih _ hmem (hx.members _ hmem) (hy.members _ (Entries.mem_of_find?_eq_some hyn))
    | _ => contradiction

/-! ## Transitivity -/

/-- Parts of consistent nodes are consistent. -/
theorem Consistent.within {x' y' z' : Node} (h : Consistent [x, y, z]) (hx : x' ∈ x.parts)
    (hy : y' ∈ y.parts) (hz : z' ∈ z.parts) : Consistent [x', y', z'] := by
  have hparts : ∀ w ∈ [x', y', z'].flatMap parts, w ∈ [x, y, z].flatMap parts := by
    intro w hw
    simp only [List.flatMap_cons, List.flatMap_nil, List.append_nil, List.mem_append] at hw ⊢
    exact hw.imp (mem_parts_trans · hx) (Or.imp (mem_parts_trans · hy) (mem_parts_trans · hz))
  constructor
  · intro w hw i ms hms
    obtain ⟨v, hv, hms⟩ := List.mem_flatMap.mp (hparts _ (List.mem_flatMap.mpr ⟨w, hw, hms⟩))
    exact h.ordered v hv i ms hms
  · exact fun i xs ys hxs hys => h.array_unique i xs ys (hparts _ hxs) (hparts _ hys)
  · exact fun i ms ns hms hns => h.object_unique i ms ns (hparts _ hms) (hparts _ hns)

/-- Each of two steps leads to the same thing or to one that is alike.  Where
one leads to the same thing, the other one is the whole way. -/
theorem same_or_trans {α : Type} {R : α → α → Prop} {a b c : α} {k : Identity}
    (hij : i = j → a = b) (hjk : j = k → b = c) (htrans : R a b → R b c → R a c)
    (h : i = j ∨ R a b) (h' : j = k ∨ R b c) : i = k ∨ R a c := by
  cases h with
  | inl h =>
    rw [h, hij h]
    exact h'
  | inr h =>
    cases h' with
    | inl h' =>
      rw [← hjk h']
      exact .inr h
    | inr h' => exact .inr (htrans h h')

/-- Equality goes on among consistent nodes. -/
theorem equals_trans (hheld : Consistent [x, y, z]) (h : x.equals y = true)
    (h' : y.equals z = true) : x.equals z = true := by
  induction x using nested_induction generalizing y z with
  | atom x harray hobject =>
    cases x with
    | array i xs => exact absurd rfl harray
    | object i ms => exact absurd rfl hobject
    | undefined =>
      cases y with
      | undefined => exact h'
      | _ => contradiction
    | null =>
      cases y with
      | null => exact h'
      | _ => contradiction
    | _ =>
      cases y <;> simp only [equals, beq_iff_eq, decide_eq_true_eq, Bool.false_eq_true] at h
      cases z <;> simp only [equals, beq_iff_eq, decide_eq_true_eq, Bool.false_eq_true] at h' ⊢
      exact h.trans h'
  | array i xs ih =>
    cases y with
    | array j ys =>
      cases z with
      | array k zs =>
        have hij : i = j → xs = ys := hheld.items_eq (by simp) (by simp)
        have hjk : j = k → ys = zs := hheld.items_eq (by simp) (by simp)
        rw [equals_array_iff] at h h' ⊢
        refine same_or_trans hij hjk (fun h h' => ?_) h h'
        refine h.trans h' fun n x y z hx hy hz => ?_
        have hmem := List.mem_of_getElem? hx
        exact ih x hmem (hheld.within (mem_parts_item hmem)
          (mem_parts_item (List.mem_of_getElem? hy)) (mem_parts_item (List.mem_of_getElem? hz)))
      | _ => contradiction
    | _ => contradiction
  | object i ms ih =>
    cases y with
    | object j ns =>
      cases z with
      | object k ls =>
        have hms : Entries.Ascending ms := (hheld.ordered (.object i ms) (by simp)).ascending
        have hns : Entries.Ascending ns := (hheld.ordered (.object j ns) (by simp)).ascending
        have hij : i = j → ms = ns := hheld.members_eq (by simp) (by simp)
        have hjk : j = k → ns = ls := hheld.members_eq (by simp) (by simp)
        rw [equals_object_iff hms] at h ⊢
        rw [equals_object_iff hns] at h'
        refine same_or_trans hij hjk (fun h h' => ?_) h h'
        refine h.trans h' fun name x y z hx hy hz => ?_
        have hmem := Entries.mem_of_find?_eq_some hx
        exact ih _ hmem (hheld.within (mem_parts_member hmem)
          (mem_parts_member (Entries.mem_of_find?_eq_some hy))
          (mem_parts_member (Entries.mem_of_find?_eq_some hz)))
      | _ => contradiction
    | _ => contradiction

/-! ## Reflexivity -/

/-- A node is not equal to itself only if it is what is no number. -/
theorem equals_self_iff : x.equals x = true ↔ x ≠ .number .nan := by
  cases x <;> simp [equals, Double.same_self_iff]

/-- No array and no object within one value is the same thing as one within
the other. -/
structure Apart (x y : Node) : Prop where
  arrays : ∀ i xs ys, .array i xs ∈ x.parts → .array i ys ∉ y.parts
  objects : ∀ i ms ns, .object i ms ∈ x.parts → .object i ns ∉ y.parts

/-- Parts of nodes without a common identity have none. -/
theorem Apart.within {x' y' : Node} (h : Apart x y) (hx : x' ∈ x.parts) (hy : y' ∈ y.parts) :
    Apart x' y' where
  arrays i xs ys hxs hys := h.arrays i xs ys (mem_parts_trans hxs hx) (mem_parts_trans hys hy)
  objects i ms ns hms hns := h.objects i ms ns (mem_parts_trans hms hx) (mem_parts_trans hns hy)

/-- A node that holds what is no number has no equal apart from it. -/
theorem equals_eq_false_of_nan (hordered : x.Ordered) (hnan : .number .nan ∈ x.parts)
    (hapart : Apart x y) : x.equals y = false := by
  rw [Bool.eq_false_iff]
  intro h
  induction x using nested_induction generalizing y with
  | atom x harray hobject =>
    rw [parts_atom harray hobject, List.mem_singleton] at hnan
    rw [← hnan] at h
    cases y with
    | number b =>
      have hsame : Double.nan.Same b := of_decide_eq_true h
      exact hsame
    | _ => contradiction
  | array i xs ih =>
    cases y with
    | array j ys =>
      cases equals_array_iff.mp h with
      | inl hij => exact hapart.arrays i xs ys (mem_parts_self _) (hij ▸ mem_parts_self _)
      | inr h =>
        obtain ⟨x, hx, hnan⟩ := (mem_parts_array.mp hnan).resolve_left nofun
        obtain ⟨k, hk⟩ := List.getElem?_of_mem hx
        obtain ⟨y, hy, hxy⟩ := h.exists_right hk
        exact ih x hx (hordered.items x hx) hnan
          (hapart.within (mem_parts_item hx) (mem_parts_item (List.mem_of_getElem? hy))) hxy
    | _ => contradiction
  | object i ms ih =>
    cases y with
    | object j ns =>
      cases (equals_object_iff hordered.ascending).mp h with
      | inl hij => exact hapart.objects i ms ns (mem_parts_self _) (hij ▸ mem_parts_self _)
      | inr h =>
        obtain ⟨m, hm, hnan⟩ := (mem_parts_object.mp hnan).resolve_left nofun
        obtain ⟨y, hy, hxy⟩ := h.exists_right (hordered.ascending.mem_iff.mp hm)
        exact ih m hm (hordered.members m hm) hnan
          (hapart.within (mem_parts_member hm)
            (mem_parts_member (Entries.mem_of_find?_eq_some hy))) hxy
    | _ => contradiction

/-- Equality of values that may be held beside each other is symmetric and
transitive.  Only a number that is no number is not equal to itself, and so
to its copies.  A value that holds one, at whatever depth, is equal to
nothing that shares no array and no object with it, as what was built anew
does not. -/
theorem equals_partialEquivalence (h : Consistent [x, y, z]) :
    x.equals y = y.equals x ∧
    (x.equals y = true → y.equals z = true → x.equals z = true) ∧
    (x.equals x = false ↔ x = .number .nan) ∧
    (.number .nan ∈ x.parts → Apart x y → x.equals y = false) := by
  have hx : x.Ordered := h.ordered x (by simp)
  have hy : y.Ordered := h.ordered y (by simp)
  have hself : x.equals x = false ↔ x = .number .nan := by
    rw [Bool.eq_false_iff, ne_eq, equals_self_iff, Classical.not_not]
  exact ⟨Bool.eq_iff_iff.mpr ⟨equals_symm hx hy, equals_symm hy hx⟩, equals_trans h, hself,
    equals_eq_false_of_nan hx⟩

/-- An array that holds an object with a number that is no number, another
array of the same object, and a rebuilt one. -/
theorem equals_partialEquivalence_shared :
    let member : Node := .object 1 [("a", .number .nan), ("b", .function 4)]
    let x : Node := .array 0 [member, .string "s"]
    let y : Node := .array 2 [member, .string "s"]
    let rebuilt : Node :=
      .array 3 [.object 5 [("a", .number .nan), ("b", .function 4)], .string "s"]
    Consistent [x, y, x] ∧ Consistent [x, rebuilt, y] ∧ x.equals y = true ∧ y.equals x = true ∧
      x.equals x = true ∧ Apart x rebuilt ∧ x.equals rebuilt = false ∧
      rebuilt.equals x = false := by
  intro member x y rebuilt
  have hab : compare "a" "b" = .lt := by decide
  have hshared : Consistent [x, y, x] := by
    constructor
    · simp [x, y, member, Ordered, parts, partsOfItems, partsOfMembers, Entries.Ascending, hab]
    · simp +contextual [x, y, member, parts, partsOfItems, partsOfMembers, or_imp]
    · simp +contextual [x, y, member, parts, partsOfItems, partsOfMembers]
  have hrebuilt : Consistent [x, rebuilt, y] := by
    constructor
    · simp [x, y, rebuilt, member, Ordered, parts, partsOfItems, partsOfMembers,
        Entries.Ascending, hab]
    · simp +contextual [x, y, rebuilt, member, parts, partsOfItems, partsOfMembers, or_imp]
    · simp +contextual [x, y, rebuilt, member, parts, partsOfItems, partsOfMembers, or_imp]
  have hapart : Apart x rebuilt := by
    constructor <;> simp +contextual [x, rebuilt, member, parts, partsOfItems, partsOfMembers]
  have hxy : x.equals y = true := by
    simp [x, y, member, equals, equalItems]
  have hnan : .number .nan ∈ x.parts := by
    simp [x, member, parts, partsOfItems, partsOfMembers]
  obtain ⟨hsymm, htrans, -, -⟩ := equals_partialEquivalence hshared
  obtain ⟨hsymm', -, -, hfalse⟩ := equals_partialEquivalence hrebuilt
  have hyx : y.equals x = true := hsymm ▸ hxy
  exact ⟨hshared, hrebuilt, hxy, hyx, htrans hxy hyx, hapart, hfalse hnan hapart,
    hsymm' ▸ hfalse hnan hapart⟩

end Node

end PushRelay
