import PushRelay.Proofs.Json.Shape
import PushRelay.Proofs.Node.Equality

/-!
# PushRelay.Proofs.Node.JsonEquality

Equality of JSON values is sameness of shape, with numbers compared by their
value.

1. Two values are `Alike` if they have the same shape and their numbers are
   related one by one.
2. Two dynamic values that are made of JSON values one after the other share
   no identity, so they are equal only if their items and members are
   (`decides_of_ordered`).
3. No JSON number is the value that is no number, so equality is reflexive
   too (`jsonEquals_iff_alike`).
-/

namespace PushRelay

namespace Json

/-- Induction over the items of arrays and the members of objects. -/
@[elab_as_elim]
theorem nested_induction {motive : Json → Prop}
    (atom : ∀ x : Json, x.depth = 0 → motive x)
    (array : ∀ xs, (∀ x ∈ xs, motive x) → motive (.array xs))
    (object : ∀ ms, (∀ m ∈ ms, motive m.2) → motive (.object ms)) : ∀ x, motive x
  | .array xs => array xs fun x _ => nested_induction atom array object x
  | .object ms => object ms fun (_, x) _ => nested_induction atom array object x
  | .null | .bool _ | .number _ | .string _ => atom _ rfl
termination_by x => sizeOf x
decreasing_by
  · decreasing_tactic
  · next hmem =>
    have hlt := List.sizeOf_lt_of_mem hmem
    simp only [Prod.mk.sizeOf_spec] at hlt
    simp only [Json.object.sizeOf_spec]
    omega

/-! ## Numbers -/

namespace Number

/-- Two numbers have the same value, whatever their forms. -/
def SameValue (m n : Number) : Prop := m.toDouble.Same n.toDouble

/-- Two numbers have the same form and the same value.  A whole number is
none of binary64. -/
def Matches : Number → Number → Prop
  | .whole m _, .whole n _ => m = n
  | .real x, .real y => x.Same y
  | _, _ => False

variable {m n : Number}

/-- No JSON number is what is no number. -/
theorem toDouble_ne_nan (n : Number) : n.toDouble ≠ .nan := by
  cases n with
  | whole n fits =>
    simp only [toDouble, Double.ofInt, Double.ofRank]
    split <;> simp
  | real x => simp [toDouble]

theorem SameValue.refl (n : Number) : n.SameValue n := Double.same_self_iff.mpr n.toDouble_ne_nan

/-- Numbers that match have the same value. -/
theorem Matches.sameValue (h : m.Matches n) : m.SameValue n := by
  cases m with
  | whole m hm =>
    cases n with
    | whole n hn =>
      obtain rfl : m = n := h
      exact .refl _
    | real y => exact h.elim
  | real x =>
    cases n with
    | whole n hn => exact h.elim
    | real y => exact h

end Number

/-! ## Likeness -/

/-- Two values have the same shape, the same truth values and strings, and
numbers that are related. -/
inductive Alike (R : Number → Number → Prop) : Json → Json → Prop
  | null : Alike R .null .null
  | bool (b : Bool) : Alike R (.bool b) (.bool b)
  | number {m n : Number} (related : R m n) : Alike R (.number m) (.number n)
  | string (s : String) : Alike R (.string s) (.string s)
  /-- as many items, which are alike one by one -/
  | array {xs ys : List Json} (length : xs.length = ys.length)
      (alike : ∀ (k : Nat) x y, xs[k]? = some x → ys[k]? = some y → Alike R x y) :
      Alike R (.array xs) (.array ys)
  /-- the same names, with members that are alike under each -/
  | object {ms ns : List (String × Json)}
      (names : ∀ name, name ∈ ms.map Prod.fst ↔ name ∈ ns.map Prod.fst)
      (alike : ∀ name x y, Entries.find? name ms = some x → Entries.find? name ns = some y →
        Alike R x y) : Alike R (.object ms) (.object ns)

namespace Alike

variable {R S : Number → Number → Prop} {x y z : Json}

/-- Values that are alike in a narrow sense are alike in a wider one. -/
theorem mono (h : Alike R x y) (himp : ∀ m n, R m n → S m n) : Alike S x y := by
  induction h with
  | null => exact .null
  | bool b => exact .bool b
  | number related => exact .number (himp _ _ related)
  | string s => exact .string s
  | array length _ ih => exact .array length ih
  | object names _ ih => exact .object names ih

/-- A value is alike itself if its numbers are. -/
theorem refl (hrefl : ∀ n, R n n) (x : Json) : Alike R x x := by
  induction x using nested_induction with
  | atom x hdepth =>
    cases x with
    | null => exact .null
    | bool b => exact .bool b
    | number n => exact .number (hrefl n)
    | string s => exact .string s
    | array xs => contradiction
    | object ms => contradiction
  | array xs ih =>
    refine .array rfl fun k x y hx hy => ?_
    cases hx.symm.trans hy
    exact ih x (List.mem_of_getElem? hx)
  | object ms ih =>
    refine .object (fun name => Iff.rfl) fun name x y hx hy => ?_
    cases hx.symm.trans hy
    exact ih (name, x) (Entries.mem_of_find?_eq_some hx)

/-- Likeness goes both ways if that of numbers does. -/
theorem symm (hsymm : ∀ m n, R m n → R n m) (h : Alike R x y) : Alike R y x := by
  induction h with
  | null => exact .null
  | bool b => exact .bool b
  | number related => exact .number (hsymm _ _ related)
  | string s => exact .string s
  | array length _ ih => exact .array length.symm fun k y x hy hx => ih k x y hx hy
  | object names _ ih =>
    exact .object (fun name => (names name).symm) fun name y x hy hx => ih name x y hx hy

/-- Likeness goes on if that of numbers does. -/
theorem trans (htrans : ∀ l m n, R l m → R m n → R l n) (h : Alike R x y) (h' : Alike R y z) :
    Alike R x z := by
  induction h generalizing z with
  | null => exact h'
  | bool b => exact h'
  | string s => exact h'
  | number related =>
    cases h' with
    | number related' => exact .number (htrans _ _ _ related related')
  | @array xs ys length _ ih =>
    cases h' with
    | @array _ zs length' alike' =>
      refine .array (length.trans length') fun k x z hx hz => ?_
      have hk : k < ys.length := by
        rw [← length]
        exact (List.getElem?_eq_some_iff.mp hx).1
      have hy : ys[k]? = some ys[k] := List.getElem?_eq_getElem hk
      exact ih k x ys[k] hx hy (alike' k ys[k] z hy hz)
  | @object ms ns names _ ih =>
    cases h' with
    | @object _ ls names' alike' =>
      refine .object (fun name => (names name).trans (names' name)) fun name x z hx hz => ?_
      have hname : (Entries.find? name ns).isSome := by
        rw [Entries.find?_isSome_iff, ← names name]
        exact Entries.find?_isSome_iff.mp (Option.isSome_of_eq_some hx)
      obtain ⟨y, hy⟩ := Option.isSome_iff_exists.mp hname
      exact ih name x y hx hy (alike' name y z hy hz)

end Alike

end Json

namespace Node

open Json (Alike)

/-! ## Identities of what is made of JSON values -/

mutual

/-- A node takes identities from the next one on. -/
theorem le_ofJson : (x : Json) → (i : Identity) → i ≤ (ofJson x i).2
  | .null, _ | .bool _, _ | .number _, _ | .string _, _ => Nat.le_refl _
  | .array xs, i => Nat.le_trans (Nat.le_succ i) (le_itemsOfJson xs (i + 1))
  | .object ms, i => Nat.le_trans (Nat.le_succ i) (le_membersOfJson ms (i + 1))

theorem le_itemsOfJson : (xs : List Json) → (i : Identity) → i ≤ (itemsOfJson xs i).2
  | [], _ => Nat.le_refl _
  | x :: xs, i => Nat.le_trans (le_ofJson x i) (le_itemsOfJson xs _)

theorem le_membersOfJson :
    (ms : List (String × Json)) → (i : Identity) → i ≤ (membersOfJson ms i).2
  | [], _ => Nat.le_refl _
  | (_, x) :: ms, i => Nat.le_trans (le_ofJson x i) (le_membersOfJson ms _)

end

/-- What was looked up among dynamic values was made of what is looked up
among JSON values, with identities from `i` on and below `next`. -/
def MadeOf (x? : Option Json) (i next : Identity) (y? : Option Node) : Prop :=
  ∃ j, i ≤ j ∧ y? = x?.map (fun x => (ofJson x j).1) ∧ ∀ x, x? = some x → (ofJson x j).2 ≤ next

/-- What was made with some identities was made within more. -/
theorem MadeOf.mono {x? : Option Json} {y? : Option Node} {i i' next next' : Identity}
    (h : MadeOf x? i next y?) (hi : i' ≤ i) (hnext : next ≤ next') : MadeOf x? i' next' y? := by
  obtain ⟨j, hij, hy, hbelow⟩ := h
  exact ⟨j, Nat.le_trans hi hij, hy, fun x hx => Nat.le_trans (hbelow x hx) hnext⟩

theorem madeOf_none (i next : Identity) : MadeOf none i next none :=
  ⟨i, Nat.le_refl i, rfl, fun _ hx => by contradiction⟩

theorem madeOf_some (x : Json) (i : Identity) :
    MadeOf (some x) i (ofJson x i).2 (some (ofJson x i).1) := by
  refine ⟨i, Nat.le_refl i, rfl, fun x' hx => ?_⟩
  cases hx
  exact Nat.le_refl _

/-- Each item of an array is made from the item in its place. -/
theorem madeOf_itemsOfJson (xs : List Json) (i : Identity) (k : Nat) :
    MadeOf xs[k]? i (itemsOfJson xs i).2 (itemsOfJson xs i).1[k]? := by
  induction xs generalizing i k with
  | nil => exact madeOf_none ..
  | cons x xs ih =>
    cases k with
    | zero => exact (madeOf_some x i).mono (Nat.le_refl i) (le_itemsOfJson xs _)
    | succ k => exact (ih (ofJson x i).2 k).mono (le_ofJson x i) (Nat.le_refl _)

/-- Each member of an object is made from the member of its name. -/
theorem madeOf_membersOfJson (ms : List (String × Json)) (i : Identity) (name : String) :
    MadeOf (Entries.find? name ms) i (membersOfJson ms i).2
      (Entries.find? name (membersOfJson ms i).1) := by
  induction ms generalizing i with
  | nil => exact madeOf_none ..
  | cons m ms ih =>
    obtain ⟨k, x⟩ := m
    simp only [membersOfJson, Entries.find?]
    split
    · exact (madeOf_some x i).mono (Nat.le_refl i) (le_membersOfJson ms _)
    · exact (ih (ofJson x i).2).mono (le_ofJson x i) (Nat.le_refl _)

/-- Members keep their names. -/
theorem map_fst_membersOfJson (ms : List (String × Json)) (i : Identity) :
    (membersOfJson ms i).1.map Prod.fst = ms.map Prod.fst := by
  induction ms generalizing i with
  | nil => rfl
  | cons m ms ih => exact congrArg (m.1 :: ·) (ih _)

/-- Members keep their order. -/
theorem ascending_membersOfJson {ms : List (String × Json)} (h : Entries.Ascending ms)
    (i : Identity) : Entries.Ascending (membersOfJson ms i).1 := by
  have hkeys : ((membersOfJson ms i).1.map Prod.fst).Pairwise fun k l => compare k l = .lt := by
    rw [map_fst_membersOfJson]
    exact List.pairwise_map.mpr h
  exact List.pairwise_map.mp hkeys

/-! ## Equality of what is made of JSON values -/

/-- Made one after the other, the two dynamic values are equal if the JSON
values are alike. -/
def Decides (x : Json) : Prop :=
  ∀ y i j, (ofJson x i).2 ≤ j →
    ((ofJson x i).1.equals (ofJson y j).1 = true ↔ Alike Json.Number.SameValue x y)

/-- Look-ups agree if what they were made of is found under the same keys and
is alike under each. -/
theorem agree_iff {κ : Type} {f g : κ → Option Json} {f' g' : κ → Option Node}
    {i j next next' : Identity} (hf : ∀ k, MadeOf (f k) i next (f' k))
    (hg : ∀ k, MadeOf (g k) j next' (g' k)) (hapart : next ≤ j)
    (hdecides : ∀ k x, f k = some x → Decides x) :
    Agree f' g' ↔ (∀ k, (f k).isSome = (g k).isSome) ∧
      ∀ k x y, f k = some x → g k = some y → Alike Json.Number.SameValue x y := by
  have hfound : ∀ k, (f' k).isSome = (f k).isSome ∧ (g' k).isSome = (g k).isSome := by
    intro k
    obtain ⟨_, -, hf', -⟩ := hf k
    obtain ⟨_, -, hg', -⟩ := hg k
    simp [hf', hg']
  have hequal : ∀ k x y, f k = some x → g k = some y → ∃ x' y', f' k = some x' ∧
      g' k = some y' ∧ (x'.equals y' = true ↔ Alike Json.Number.SameValue x y) := by
    intro k x y hx hy
    obtain ⟨a, -, hf', hbelow⟩ := hf k
    obtain ⟨b, hb, hg', -⟩ := hg k
    rw [hx, Option.map_some] at hf'
    rw [hy, Option.map_some] at hg'
    have hlater : (ofJson x a).2 ≤ b := Nat.le_trans (hbelow x hx) (Nat.le_trans hapart hb)
    exact ⟨_, _, hf', hg', hdecides k x hx y a b hlater⟩
  constructor
  · intro h
    constructor
    · intro k
      rw [← (hfound k).1, ← (hfound k).2]
      exact h.found k
    · intro k x y hx hy
      obtain ⟨x', y', hx', hy', hiff⟩ := hequal k x y hx hy
      exact hiff.mp (h.equal k x' y' hx' hy')
  · intro h
    obtain ⟨hsome, halike⟩ := h
    constructor
    · intro k
      rw [(hfound k).1, (hfound k).2]
      exact hsome k
    · intro k x' y' hx' hy'
      have hx : (f k).isSome := (hfound k).1 ▸ Option.isSome_of_eq_some hx'
      have hy : (g k).isSome := (hfound k).2 ▸ Option.isSome_of_eq_some hy'
      obtain ⟨x, hx⟩ := Option.isSome_iff_exists.mp hx
      obtain ⟨y, hy⟩ := Option.isSome_iff_exists.mp hy
      obtain ⟨x'', y'', hx'', hy'', hiff⟩ := hequal k x y hx hy
      cases hx'.symm.trans hx''
      cases hy'.symm.trans hy''
      exact hiff.mpr (halike k x y hx hy)

/-- Arrays have the same places if they are of the same length. -/
theorem isSome_getElem?_eq_iff {xs ys : List Json} :
    (∀ k : Nat, xs[k]?.isSome = ys[k]?.isSome) ↔ xs.length = ys.length := by
  have hsome : ∀ (zs : List Json) (k : Nat), zs[k]?.isSome = true ↔ k < zs.length := by
    intro zs k
    rw [Option.isSome_iff_ne_none, ne_eq, List.getElem?_eq_none_iff, Nat.not_le]
  constructor
  · intro h
    have hlt : ∀ k, k < xs.length ↔ k < ys.length := fun k => by rw [← hsome, ← hsome, h k]
    have hxs := hlt xs.length
    have hys := hlt ys.length
    omega
  · intro h k
    rw [Bool.eq_iff_iff, hsome, hsome, h]

/-- Numbers are alike just where the relation says so. -/
theorem alike_number_iff {R : Json.Number → Json.Number → Prop} {m n : Json.Number} :
    Alike R (.number m) (.number n) ↔ R m n := by
  constructor
  · intro h
    cases h with
    | number related => exact related
  · exact .number

/-- Arrays are alike if the same is found under each index. -/
theorem alike_array_iff {R : Json.Number → Json.Number → Prop} {xs ys : List Json} :
    Alike R (.array xs) (.array ys) ↔ (∀ k : Nat, xs[k]?.isSome = ys[k]?.isSome) ∧
      ∀ (k : Nat) x y, xs[k]? = some x → ys[k]? = some y → Alike R x y := by
  rw [isSome_getElem?_eq_iff]
  constructor
  · intro h
    cases h with
    | array length alike => exact ⟨length, alike⟩
  · exact fun h => .array h.1 h.2

/-- And objects under each name. -/
theorem alike_object_iff {R : Json.Number → Json.Number → Prop} {ms ns : List (String × Json)} :
    Alike R (.object ms) (.object ns) ↔
      (∀ name, (Entries.find? name ms).isSome = (Entries.find? name ns).isSome) ∧
      ∀ name x y, Entries.find? name ms = some x → Entries.find? name ns = some y →
        Alike R x y := by
  have hnames : ∀ name, (Entries.find? name ms).isSome = (Entries.find? name ns).isSome ↔
      (name ∈ ms.map Prod.fst ↔ name ∈ ns.map Prod.fst) := by
    intro name
    rw [Bool.eq_iff_iff, Entries.find?_isSome_iff, Entries.find?_isSome_iff]
  simp only [hnames]
  constructor
  · intro h
    cases h with
    | object names alike => exact ⟨names, alike⟩
  · exact fun h => .object h.1 h.2

/-- Equality decides likeness of atoms. -/
theorem decides_atom {x : Json} (hdepth : x.depth = 0) : Decides x := by
  intro y i j _
  cases x with
  | null =>
    cases y with
    | null => exact iff_of_true rfl .null
    | _ => exact iff_of_false (by simp [ofJson, equals]) (by rintro ⟨⟩)
  | bool a =>
    cases y with
    | bool b =>
      simp only [ofJson, equals, beq_iff_eq]
      exact ⟨fun h => h ▸ .bool a, fun h => by cases h; rfl⟩
    | _ => exact iff_of_false (by simp [ofJson, equals]) (by rintro ⟨⟩)
  | number m =>
    cases y with
    | number n =>
      rw [alike_number_iff]
      exact decide_eq_true_iff
    | _ => exact iff_of_false (by simp [ofJson, equals]) (by rintro ⟨⟩)
  | string s =>
    cases y with
    | string t =>
      simp only [ofJson, equals, beq_iff_eq]
      exact ⟨fun h => h ▸ .string s, fun h => by cases h; rfl⟩
    | _ => exact iff_of_false (by simp [ofJson, equals]) (by rintro ⟨⟩)
  | array xs => contradiction
  | object ms => contradiction

/-- Nothing in the second array has an identity of the first one, so neither
is taken for equal without a look at its items. -/
theorem decides_array {xs : List Json} (hxs : ∀ x ∈ xs, Decides x) : Decides (.array xs) := by
  intro y i j hij
  cases y with
  | array ys =>
    have hapart : (itemsOfJson xs (i + 1)).2 ≤ j := hij
    have hne : i ≠ j := Nat.ne_of_lt (Nat.le_trans (le_itemsOfJson xs (i + 1)) hapart)
    have hitems : ∀ (k : Nat) x, xs[k]? = some x → Decides x :=
      fun k x hk => hxs x (List.mem_of_getElem? hk)
    have hagree := agree_iff (madeOf_itemsOfJson xs (i + 1)) (madeOf_itemsOfJson ys (j + 1))
      (Nat.le_succ_of_le hapart) hitems
    simp only [ofJson]
    rw [equals_array_iff, alike_array_iff, ← hagree]
    exact or_iff_right hne
  | _ => exact iff_of_false (by simp [ofJson, equals]) (by rintro ⟨⟩)

/-- It does for objects whose values it decides. -/
theorem decides_object {ms : List (String × Json)} (hascending : Entries.Ascending ms)
    (hms : ∀ m ∈ ms, Decides m.2) : Decides (.object ms) := by
  intro y i j hij
  cases y with
  | object ns =>
    have hapart : (membersOfJson ms (i + 1)).2 ≤ j := hij
    have hne : i ≠ j := Nat.ne_of_lt (Nat.le_trans (le_membersOfJson ms (i + 1)) hapart)
    have hmembers : ∀ name x, Entries.find? name ms = some x → Decides x :=
      fun name x hname => hms _ (Entries.mem_of_find?_eq_some hname)
    have hagree := agree_iff (madeOf_membersOfJson ms (i + 1)) (madeOf_membersOfJson ns (j + 1))
      (Nat.le_succ_of_le hapart) hmembers
    simp only [ofJson]
    rw [equals_object_iff (ascending_membersOfJson hascending _), alike_object_iff, ← hagree]
    exact or_iff_right hne
  | _ => exact iff_of_false (by simp [ofJson, equals]) (by rintro ⟨⟩)

/-- It does for all values whose names ascend. -/
theorem decides_of_ordered {x : Json} (hx : x.Ordered) : Decides x := by
  induction x using Json.nested_induction with
  | atom x hdepth => exact decides_atom hdepth
  | array xs ih =>
    exact decides_array fun x hmem => ih x hmem (Json.orderedItems_iff.mp hx x hmem)
  | object ms ih =>
    obtain ⟨hascending, hmembers⟩ := hx
    exact decides_object hascending fun m hm => ih m hm (Json.orderedMembers_iff.mp hmembers m hm)

/-- Values are equal if they are alike up to how their numbers are written. -/
theorem jsonEquals_iff {x y : Json} (hx : x.Ordered) :
    jsonEquals x y = true ↔ Alike Json.Number.SameValue x y :=
  decides_of_ordered hx y 0 _ (Nat.le_refl _)

/-- Equality of JSON values is sameness of shape, with numbers compared by
their value.  So it is reflexive, symmetric and transitive, and values whose
numbers match in form too are equal. -/
theorem jsonEquals_iff_alike {x y z : Json} (hx : x.Ordered) (hy : y.Ordered) :
    (jsonEquals x y = true ↔ Alike Json.Number.SameValue x y) ∧
    jsonEquals x x = true ∧
    jsonEquals x y = jsonEquals y x ∧
    (jsonEquals x y = true → jsonEquals y z = true → jsonEquals x z = true) ∧
    (Alike Json.Number.Matches x y → jsonEquals x y = true) := by
  refine ⟨jsonEquals_iff hx, ?reflexive, ?symmetric, ?transitive, ?matching⟩
  case reflexive => exact (jsonEquals_iff hx).mpr (.refl Json.Number.SameValue.refl x)
  case symmetric =>
    have hsymm : ∀ m n, Json.Number.SameValue m n → Json.Number.SameValue n m :=
      fun _ _ => Double.Same.symm
    rw [Bool.eq_iff_iff, jsonEquals_iff hx, jsonEquals_iff hy]
    exact ⟨.symm hsymm, .symm hsymm⟩
  case transitive =>
    intro hxy hyz
    rw [jsonEquals_iff hx] at hxy ⊢
    rw [jsonEquals_iff hy] at hyz
    exact hxy.trans (fun _ _ _ => Double.Same.trans) hyz
  case matching =>
    intro h
    exact (jsonEquals_iff hx).mpr (h.mono fun _ _ => Json.Number.Matches.sameValue)

/-- A whole number beside the binary64 number of its value, and a zero beside
a negative one. -/
theorem jsonEquals_iff_alike_zeros :
    let real (negative : Bool) (rank : Nat) (h : rank < Binary64.limit) : Json :=
      .number (.real ⟨negative, rank, h⟩)
    let one : Json := .number (.whole 1 (by decide))
    let x : Json := .object [("a", .array [one, .null]), ("b", real true 0 (by decide))]
    let y : Json := .object [("a", .array [real false (1023 * Binary64.binade) (by decide), .null]),
      ("b", real false 0 (by decide))]
    let z : Json := .object [("a", .array [one, .null]), ("b", .number (.whole 0 (by decide)))]
    x.Ordered ∧ y.Ordered ∧ Alike Json.Number.SameValue x y ∧ jsonEquals y x = true ∧
      jsonEquals x z = true ∧ ¬ Alike Json.Number.Matches x y := by
  intro real one x y z
  have hab : compare "a" "b" = .lt := by decide
  have hx : x.Ordered := by
    simp [x, real, one, Json.Ordered, Json.OrderedMembers, Json.OrderedItems, Entries.Ascending,
      hab]
  have hy : y.Ordered := by
    simp [y, real, Json.Ordered, Json.OrderedMembers, Json.OrderedItems, Entries.Ascending, hab]
  have hxy : jsonEquals x y = true := by decide +kernel
  have hyz : jsonEquals y z = true := by decide +kernel
  obtain ⟨halike, -, hsymm, htrans, -⟩ := jsonEquals_iff_alike (z := z) hx hy
  refine ⟨hx, hy, halike.mp hxy, hsymm ▸ hxy, htrans hxy hyz, ?_⟩
  intro h
  obtain ⟨-, hmembers⟩ := alike_object_iff.mp h
  obtain ⟨-, hitems⟩ := alike_array_iff.mp (hmembers "a" _ _ rfl rfl)
  exact alike_number_iff.mp (hitems 0 _ _ rfl rfl)

end Node

end PushRelay
