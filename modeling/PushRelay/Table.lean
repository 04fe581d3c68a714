/-!
# PushRelay.Table

Finite maps in ascending order of key.  Everything that this library keeps
by name (the members of a JSON object, the packets of a protocol, the
callbacks of a handler, the services of a router) is listed in the order
of its names, one entry a name, and a second entry of a name replaces the
first.

1. `Entries` holds the operations on plain lists of pairs; a JSON object
   uses them as they are.
2. `Table` is such a list together with the fact that its keys ascend.
   The order makes it canonical: `Table.ext_find?` says that two tables
   with the same look-ups are equal.

Keys are ordered by `compare`, which for strings is the order of code
points.
-/

namespace PushRelay

variable {κ α β : Type}

/-! ## Lists of pairs -/

namespace Entries

section Operations

variable [Ord κ] [DecidableEq κ]

/-- The value of the first entry with key `k`. -/
def find? (k : κ) : List (κ × α) → Option α
  | [] => none
  | (k', v) :: rest => if k' = k then some v else find? k rest

/-- Enters `v` under `k` at its place, in the stead of an entry that has
the key already. -/
def insert (k : κ) (v : α) : List (κ × α) → List (κ × α)
  | [] => [(k, v)]
  | (k', v') :: rest =>
    match compare k k' with
    | .lt => (k, v) :: (k', v') :: rest
    | .eq => (k, v) :: rest
    | .gt => (k', v') :: insert k v rest

/-- The entries whose key is not `k`. -/
def erase (k : κ) (entries : List (κ × α)) : List (κ × α) :=
  entries.filter fun e => e.1 ≠ k

/-- Enters the pairs one after the other, so that the last of a key stays. -/
def insertAll (entries : List (κ × α)) (pairs : List (κ × α)) : List (κ × α) :=
  pairs.foldl (fun acc p => insert p.1 p.2 acc) entries

end Operations

/-- The keys ascend, so no key occurs twice. -/
def Ascending [Ord κ] (entries : List (κ × α)) : Prop :=
  entries.Pairwise fun a b => compare a.1 b.1 = .lt

/-! ### What the operations do to look-ups and keys -/

section Laws

variable [Ord κ] [Std.TransOrd κ] [Std.LawfulEqOrd κ] [DecidableEq κ]
variable {k k' : κ} {v : α} {l m : List (κ × α)}

omit [Std.TransOrd κ] in
/-- What was entered under a key is found there. -/
theorem find?_insert_self (k : κ) (v : α) (l : List (κ × α)) :
    find? k (insert k v l) = some v := by
  induction l with
  | nil => simp [insert, find?]
  | cons e l ih =>
    obtain ⟨k', v'⟩ := e
    simp only [insert]
    split
    · simp [find?]
    · simp [find?]
    · rename_i h
      have hne : k' ≠ k := by
        rintro rfl
        simp [Std.ReflCmp.compare_self] at h
      simp [find?, hne, ih]

omit [Std.TransOrd κ] in
/-- An entry leaves what is under other keys alone. -/
theorem find?_insert_of_ne (h : k' ≠ k) (v : α) (l : List (κ × α)) :
    find? k' (insert k v l) = find? k' l := by
  induction l with
  | nil => simp [insert, find?, h.symm]
  | cons e l ih =>
    obtain ⟨k₁, v₁⟩ := e
    simp only [insert]
    split
    · simp [find?, h.symm]
    · rename_i hc
      have := Std.LawfulEqOrd.eq_of_compare hc
      subst this
      simp [find?, h.symm]
    · simp [find?, ih]

omit [Std.TransOrd κ] in
/-- A look-up after an insertion. -/
theorem find?_insert (k k' : κ) (v : α) (l : List (κ × α)) :
    find? k' (insert k v l) = if k' = k then some v else find? k' l := by
  split
  · subst_vars; exact find?_insert_self _ v l
  · rename_i h; exact find?_insert_of_ne h v l

omit [Ord κ] [Std.TransOrd κ] [Std.LawfulEqOrd κ] in
/-- A look-up after an erasure. -/
theorem find?_erase (k k' : κ) (l : List (κ × α)) :
    find? k' (erase k l) = if k' = k then none else find? k' l := by
  induction l with
  | nil => simp [erase, find?]
  | cons e l ih =>
    obtain ⟨k₁, v₁⟩ := e
    simp only [erase, List.filter_cons] at ih ⊢
    by_cases h₁ : k₁ = k
    · subst h₁
      by_cases h : k' = k₁
      · simp_all
      · simp_all [find?, Ne.symm h]
    · by_cases h : k₁ = k'
      · subst h; simp [find?, h₁]
      · simp_all [find?]

omit [Std.TransOrd κ] [DecidableEq κ] in
/-- An entry adds its key, and no other. -/
theorem mem_keys_insert {x : κ} :
    x ∈ (insert k v l).map Prod.fst ↔ x = k ∨ x ∈ l.map Prod.fst := by
  induction l with
  | nil => simp [insert]
  | cons e l ih =>
    obtain ⟨k', v'⟩ := e
    simp only [insert]
    split
    · simp
    · rename_i hc
      have := Std.LawfulEqOrd.eq_of_compare hc
      subst this
      simp
    · simp only [List.map_cons, List.mem_cons, ih]
      constructor <;> rintro (h | h | h) <;> simp [h]

omit [Std.TransOrd κ] [Std.LawfulEqOrd κ] [DecidableEq κ] in
/-- After an entry there is nothing new but the entry. -/
theorem mem_of_mem_insert {e : κ × α} (he : e ∈ insert k v l) : e = (k, v) ∨ e ∈ l := by
  induction l with
  | nil => exact .inl (List.mem_singleton.mp he)
  | cons e' l ih =>
    obtain ⟨k', v'⟩ := e'
    rw [insert] at he
    split at he
    · exact List.mem_cons.mp he
    · cases List.mem_cons.mp he with
      | inl he => exact .inl he
      | inr he => exact .inr (List.mem_cons_of_mem _ he)
    · cases List.mem_cons.mp he with
      | inl he => exact .inr (List.mem_cons.mpr (.inl he))
      | inr he =>
        cases ih he with
        | inl he => exact .inl he
        | inr he => exact .inr (List.mem_cons_of_mem _ he)

omit [Ord κ] [Std.TransOrd κ] [Std.LawfulEqOrd κ] in
/-- What is not found has no entry. -/
theorem find?_eq_none_iff : find? k l = none ↔ k ∉ l.map Prod.fst := by
  induction l with
  | nil => simp [find?]
  | cons e l ih =>
    obtain ⟨k', v'⟩ := e
    by_cases h : k' = k
    · simp [find?, h]
    · simp [find?, h, ih, Ne.symm h]

omit [Ord κ] [Std.TransOrd κ] [Std.LawfulEqOrd κ] in
/-- What is found has an entry. -/
theorem find?_isSome_iff : (find? k l).isSome ↔ k ∈ l.map Prod.fst := by
  induction l with
  | nil => simp [find?]
  | cons e l ih =>
    obtain ⟨k', v'⟩ := e
    by_cases h : k' = k
    · simp [find?, h]
    · simp [find?, h, ih, Ne.symm h]

omit [Ord κ] [Std.TransOrd κ] [Std.LawfulEqOrd κ] in
/-- What is found under a key was entered there. -/
theorem mem_of_find?_eq_some (h : find? k l = some v) : (k, v) ∈ l := by
  induction l with
  | nil => simp [find?] at h
  | cons e l ih =>
    obtain ⟨k', v'⟩ := e
    by_cases hk : k' = k
    · simp_all [find?]
    · simp_all [find?]

omit [DecidableEq κ] in
/-- Entries stay in order when one is made. -/
theorem ascending_insert (k : κ) (v : α) (h : Ascending l) : Ascending (insert k v l) := by
  induction l with
  | nil => simp [Ascending, insert]
  | cons e l ih =>
    obtain ⟨k', v'⟩ := e
    obtain ⟨hk', hl⟩ := List.pairwise_cons.1 h
    simp only [insert]
    split
    · rename_i hc
      refine List.pairwise_cons.2 ⟨?_, h⟩
      intro b hb
      rcases List.mem_cons.1 hb with rfl | hb
      · exact hc
      · exact Std.TransCmp.lt_trans hc (hk' b hb)
    · rename_i hc
      have := Std.LawfulEqOrd.eq_of_compare hc
      subst this
      exact List.pairwise_cons.2 ⟨hk', hl⟩
    · rename_i hc
      refine List.pairwise_cons.2 ⟨?_, ih hl⟩
      intro b hb
      have hmem : b.1 ∈ (insert k v l).map Prod.fst := List.mem_map_of_mem hb
      rcases mem_keys_insert.1 hmem with hb | hb
      · rw [hb]; exact Std.OrientedCmp.lt_of_gt hc
      · obtain ⟨e, he, heq⟩ := List.mem_map.1 hb
        rw [← heq]; exact hk' e he

omit [Std.TransOrd κ] [Std.LawfulEqOrd κ] in
/-- Entries stay in order when one is taken out. -/
theorem ascending_erase (k : κ) (h : Ascending l) : Ascending (erase k l) :=
  h.sublist List.filter_sublist

omit [DecidableEq κ] in
/-- Entries stay in order when many are made. -/
theorem ascending_insertAll (pairs : List (κ × α)) (h : Ascending l) :
    Ascending (insertAll l pairs) := by
  induction pairs generalizing l with
  | nil => exact h
  | cons p pairs ih => exact ih (ascending_insert p.1 p.2 h)

omit [Std.LawfulEqOrd κ] [DecidableEq κ] in
/-- A key behind all others is entered at the end. -/
theorem insert_of_lt (v : α) (h : ∀ e ∈ l, compare e.1 k = .lt) :
    insert k v l = l ++ [(k, v)] := by
  induction l with
  | nil => rfl
  | cons e l ih =>
    obtain ⟨hk, hl⟩ := List.forall_mem_cons.mp h
    have hgt : compare k e.1 = .gt := Std.OrientedCmp.gt_of_lt hk
    simp only [insert, hgt, ih hl, List.cons_append]

omit [Std.LawfulEqOrd κ] [DecidableEq κ] in
/-- Pairs whose keys ascend are entered as they are. -/
theorem insertAll_append (h : Ascending (l ++ m)) : insertAll l m = l ++ m := by
  induction m generalizing l with
  | nil => simp [insertAll]
  | cons e m ih =>
    have hlast : ∀ e' ∈ l, compare e'.1 e.1 = .lt := by
      intro e' he'
      exact (List.pairwise_append.mp h).2.2 e' he' e List.mem_cons_self
    have hnext : insertAll l (e :: m) = insertAll (l ++ [e]) m := by
      rw [insertAll, List.foldl_cons, insert_of_lt e.2 hlast]
      rfl
    rw [List.append_cons] at h ⊢
    rw [hnext, ih h]

omit [Std.LawfulEqOrd κ] in
/-- Nothing is found under a key that comes before the first one. -/
theorem find?_eq_none_of_lt (h : Ascending ((k', v) :: l)) (hk : compare k k' = .lt) :
    find? k ((k', v) :: l) = none := by
  rw [find?_eq_none_iff]
  obtain ⟨hk', -⟩ := List.pairwise_cons.1 h
  intro hmem
  rcases List.mem_cons.1 hmem with rfl | hmem
  · simp [Std.ReflCmp.compare_self] at hk
  · obtain ⟨e, he, rfl⟩ := List.mem_map.1 hmem
    have := Std.TransCmp.lt_trans hk (hk' e he)
    simp [Std.ReflCmp.compare_self] at this

omit [Std.LawfulEqOrd κ] [DecidableEq κ] in
/-- No key of an ascending list occurs twice. -/
theorem Ascending.nodup_keys (h : Ascending l) : (l.map Prod.fst).Nodup := by
  rw [List.nodup_iff_pairwise_ne, List.pairwise_map]
  refine h.imp fun {a b} hab heq => ?_
  simp [heq, Std.ReflCmp.compare_self] at hab

omit [Std.LawfulEqOrd κ] in
/-- The entries of an ascending list are its look-ups. -/
theorem Ascending.mem_iff (h : Ascending l) : (k, v) ∈ l ↔ find? k l = some v := by
  refine ⟨fun hmem => ?_, mem_of_find?_eq_some⟩
  induction l with
  | nil => simp at hmem
  | cons e l ih =>
    obtain ⟨k', v'⟩ := e
    obtain ⟨hk', hl⟩ := List.pairwise_cons.1 h
    rcases List.mem_cons.1 hmem with heq | hmem
    · cases heq
      simp [find?]
    · have hne : k' ≠ k := by
        rintro rfl
        simpa [Std.ReflCmp.compare_self] using hk' _ hmem
      rw [find?, if_neg hne]
      exact ih hl hmem

omit [Std.LawfulEqOrd κ] in
/-- A look-up after a selection. -/
theorem Ascending.find?_filter (h : Ascending l) (keep : κ → α → Bool) (k : κ) :
    find? k (l.filter fun e => keep e.1 e.2) = (find? k l).filter (keep k) := by
  have hfilter : Ascending (l.filter fun e => keep e.1 e.2) := List.Pairwise.filter _ h
  ext v
  rw [← hfilter.mem_iff, List.mem_filter, h.mem_iff, Option.filter_eq_some_iff]

/-- Ascending lists with the same look-ups are the same list. -/
theorem ext_find? (hl : Ascending l) (hm : Ascending m)
    (h : ∀ k, find? k l = find? k m) : l = m := by
  induction l generalizing m with
  | nil =>
    cases m with
    | nil => rfl
    | cons e m => simpa [find?] using h e.1
  | cons e l ih =>
    obtain ⟨k, v⟩ := e
    cases m with
    | nil => simpa [find?] using h k
    | cons e' m =>
      obtain ⟨k', v'⟩ := e'
      have hkk : k = k' := by
        rcases hc : compare k k' with _ | _ | _
        · have := h k
          rw [find?_eq_none_of_lt hm hc] at this
          simp [find?] at this
        · exact Std.LawfulEqOrd.eq_of_compare hc
        · have := h k'
          rw [find?_eq_none_of_lt hl (Std.OrientedCmp.lt_of_gt hc)] at this
          simp [find?] at this
      subst hkk
      have hv : v = v' := by simpa [find?] using h k
      subst hv
      obtain ⟨hkl, hl'⟩ := List.pairwise_cons.1 hl
      obtain ⟨hkm, hm'⟩ := List.pairwise_cons.1 hm
      congr 1
      refine ih hl' hm' fun x => ?_
      by_cases hx : k = x
      · subst hx
        have hnone : ∀ {n : List (κ × α)},
            (∀ b ∈ n, compare k b.1 = .lt) → find? k n = none := by
          intro n hn
          rw [find?_eq_none_iff]
          intro hmem
          obtain ⟨e, he, heq⟩ := List.mem_map.1 hmem
          have := hn e he
          rw [heq] at this
          simp [Std.ReflCmp.compare_self] at this
        rw [hnone hkl, hnone hkm]
      · simpa [find?, hx] using h x

end Laws

end Entries

/-! ## Tables -/

/-- A finite map that lists its entries in ascending order of key. -/
structure Table (κ α : Type) [Ord κ] where
  entries : List (κ × α)
  ascending : Entries.Ascending entries

namespace Table

section Operations

variable [Ord κ]

instance [DecidableEq κ] [DecidableEq α] : DecidableEq (Table κ α) := fun s t =>
  if h : s.entries = t.entries then
    .isTrue (by cases s; cases t; simp_all)
  else .isFalse (by rintro rfl; exact h rfl)

/-- The table without entries. -/
def empty : Table κ α := ⟨[], .nil⟩

instance : EmptyCollection (Table κ α) := ⟨empty⟩

instance : Inhabited (Table κ α) := ⟨empty⟩

/-- The keys, ascending. -/
def keys (t : Table κ α) : List κ := t.entries.map Prod.fst

/-- The values, in the order of their keys. -/
def values (t : Table κ α) : List α := t.entries.map Prod.snd

def size (t : Table κ α) : Nat := t.entries.length

/-- Applies `f` to every value and keeps the keys. -/
def map (f : α → β) (t : Table κ α) : Table κ β :=
  ⟨t.entries.map fun e => (e.1, f e.2), by
    have := t.ascending
    unfold Entries.Ascending at this ⊢
    rw [List.pairwise_map]
    exact this⟩

/-- Keeps the entries that pass a test. -/
def filter (keep : κ → α → Bool) (t : Table κ α) : Table κ α :=
  ⟨t.entries.filter fun e => keep e.1 e.2, List.Pairwise.filter _ t.ascending⟩

variable [DecidableEq κ]

def find? (t : Table κ α) (k : κ) : Option α := Entries.find? k t.entries

def contains (t : Table κ α) (k : κ) : Bool := (t.find? k).isSome

def erase (t : Table κ α) (k : κ) : Table κ α :=
  ⟨Entries.erase k t.entries, Entries.ascending_erase k t.ascending⟩

variable [Std.TransOrd κ] [Std.LawfulEqOrd κ]

def insert (t : Table κ α) (k : κ) (v : α) : Table κ α :=
  ⟨Entries.insert k v t.entries, Entries.ascending_insert k v t.ascending⟩

/-- Enters the pairs one after the other, so that the last of a key stays. -/
def insertAll (t : Table κ α) (pairs : List (κ × α)) : Table κ α :=
  ⟨Entries.insertAll t.entries pairs, Entries.ascending_insertAll pairs t.ascending⟩

/-- The table of the pairs, the last of a key winning. -/
def ofList (pairs : List (κ × α)) : Table κ α := empty.insertAll pairs

end Operations

section Laws

variable [Ord κ] [Std.TransOrd κ] [Std.LawfulEqOrd κ] [DecidableEq κ]
variable {s t : Table κ α} {k k' : κ} {v : α}

omit [Std.TransOrd κ] [Std.LawfulEqOrd κ] in
@[simp] theorem find?_empty (k : κ) : (∅ : Table κ α).find? k = none := rfl

/-- A look-up after an entry finds what was entered, or what was there
before. -/
@[simp] theorem find?_insert (t : Table κ α) (k k' : κ) (v : α) :
    (t.insert k v).find? k' = if k' = k then some v else t.find? k' :=
  Entries.find?_insert k k' v t.entries

omit [Std.TransOrd κ] [Std.LawfulEqOrd κ] in
/-- What was taken out is not found any more, and all else is. -/
@[simp] theorem find?_erase (t : Table κ α) (k k' : κ) :
    (t.erase k).find? k' = if k' = k then none else t.find? k' :=
  Entries.find?_erase k k' t.entries

/-- A table contains what is entered, and what it contained. -/
@[simp] theorem contains_insert (t : Table κ α) (k k' : κ) (v : α) :
    (t.insert k v).contains k' = (k' = k || t.contains k') := by
  simp only [contains, find?_insert]
  split <;> simp_all

omit [Std.TransOrd κ] [Std.LawfulEqOrd κ] in
/-- A table contains the keys that it lists. -/
theorem contains_iff_mem_keys : t.contains k ↔ k ∈ t.keys :=
  Entries.find?_isSome_iff

omit [Std.LawfulEqOrd κ] in
@[simp] theorem find?_filter (t : Table κ α) (keep : κ → α → Bool) (k : κ) :
    (t.filter keep).find? k = (t.find? k).filter (keep k) :=
  t.ascending.find?_filter keep k

omit [Std.LawfulEqOrd κ] in
/-- The entries of a table are its look-ups. -/
theorem mem_entries_iff : (k, v) ∈ t.entries ↔ t.find? k = some v :=
  t.ascending.mem_iff

omit [Std.LawfulEqOrd κ] [DecidableEq κ] in
/-- No key is listed twice. -/
theorem nodup_keys (t : Table κ α) : t.keys.Nodup := t.ascending.nodup_keys

omit [DecidableEq κ] in
@[simp] theorem mem_keys_insert {x : κ} : x ∈ (t.insert k v).keys ↔ x = k ∨ x ∈ t.keys :=
  Entries.mem_keys_insert

omit [Std.LawfulEqOrd κ] in
/-- The values are those that are found under some key. -/
theorem mem_values_iff : v ∈ t.values ↔ ∃ k, t.find? k = some v := by
  simp only [values, List.mem_map, Prod.exists, mem_entries_iff, exists_eq_right]

omit [DecidableEq κ] in
/-- A key behind all others comes last. -/
theorem entries_insert_of_lt (v : α) (h : ∀ k' ∈ t.keys, compare k' k = .lt) :
    (t.insert k v).entries = t.entries ++ [(k, v)] :=
  Entries.insert_of_lt v fun e he => h e.1 (List.mem_map_of_mem he)

omit [Std.TransOrd κ] [Std.LawfulEqOrd κ] in
/-- To take an entry out is to take its key out of the list. -/
theorem keys_erase (t : Table κ α) (k : κ) : (t.erase k).keys = t.keys.filter (· != k) := by
  simp only [keys, erase, Entries.erase, List.filter_map, Function.comp_def, ne_eq, decide_not]
  rfl

omit [Std.LawfulEqOrd κ] in
/-- A table loses one entry with a key that it has. -/
theorem size_erase (h : t.find? k = some v) : (t.erase k).size + 1 = t.size := by
  have hmem : k ∈ t.keys := contains_iff_mem_keys.mp (by rw [contains, h, Option.isSome_some])
  have hlength (t : Table κ α) : t.size = t.keys.length := by rw [size, keys, List.length_map]
  rw [hlength, hlength, keys_erase, ← t.nodup_keys.erase_eq_filter, List.length_erase_of_mem hmem]
  exact Nat.sub_add_cancel (List.length_pos_of_mem hmem)

omit [Std.TransOrd κ] [Std.LawfulEqOrd κ] in
@[simp] theorem find?_map (f : α → β) (t : Table κ α) (k : κ) :
    (t.map f).find? k = (t.find? k).map f := by
  obtain ⟨entries, ascending⟩ := t
  simp only [map, find?]
  clear ascending
  induction entries with
  | nil => rfl
  | cons e entries ih =>
    simp only [List.map_cons, Entries.find?, ih]
    split
    · rfl
    · rfl

omit [Std.TransOrd κ] [Std.LawfulEqOrd κ] [DecidableEq κ] in
/-- Changed values stay under their keys. -/
@[simp] theorem keys_map (f : α → β) (t : Table κ α) : (t.map f).keys = t.keys := by
  simp only [keys, map, List.map_map]
  rfl

omit [Std.LawfulEqOrd κ] in
/-- A key is listed once, if it has an entry. -/
theorem count_keys (t : Table κ α) (k : κ) : t.keys.count k = if t.contains k then 1 else 0 := by
  rw [t.nodup_keys.count]
  simp only [contains_iff_mem_keys]

/-- The last pair of a key stays. -/
theorem find?_insertAll (t : Table κ α) (pairs : List (κ × α)) (k : κ) :
    (t.insertAll pairs).find? k = (pairs.reverse.lookup k).or (t.find? k) := by
  induction pairs generalizing t with
  | nil => rfl
  | cons p pairs ih =>
    obtain ⟨k', v⟩ := p
    have hrest : t.insertAll ((k', v) :: pairs) = (t.insert k' v).insertAll pairs := rfl
    rw [hrest, ih, find?_insert, List.reverse_cons, List.lookup_append, Option.or_assoc,
      List.lookup_cons]
    by_cases hk : k = k'
    · simp [hk]
    · simp [hk, beq_eq_false_iff_ne.mpr hk]

/-- Tables with the same look-ups are equal. -/
theorem ext_find? (h : ∀ k, s.find? k = t.find? k) : s = t := by
  have := Entries.ext_find? s.ascending t.ascending h
  cases s; cases t; simp_all

/-- Tables with entries of the same keys list the same keys. -/
theorem keys_eq_of_contains {u : Table κ β} (h : ∀ k, s.contains k = u.contains k) :
    s.keys = u.keys := by
  have hunits : s.map (fun _ => ()) = u.map fun _ => () := by
    refine ext_find? fun k => ?_
    have hk := h k
    rw [contains, contains] at hk
    rw [find?_map, find?_map]
    cases hs : s.find? k with
    | none => cases hu : u.find? k with
      | none => rfl
      | some y => simp [hs, hu] at hk
    | some x => cases hu : u.find? k with
      | none => simp [hs, hu] at hk
      | some y => rfl
  rw [← keys_map (fun _ => ()) s, ← keys_map (fun _ => ()) u, hunits]

end Laws

end Table

end PushRelay
