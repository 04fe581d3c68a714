import Mathlib.Data.List.Basic
import PushRelay.Connection.Basic

/-!
# PushRelay.Proofs.Connection.Reports

What a listener was told of the states of transports, read off a journal.

Reports whose transports ascend are made of one block a transport
(`reports_eq_flatMap`): all states of the first one, then all states of the
second one, and so on.
-/

namespace PushRelay

/-- The report that an entry of a journal makes, if it makes one. -/
def Entry.report? : Entry → Option (Nat × ReadyState)
  | .told t (.state s) _ => some (t, s)
  | _ => none

/-- The states that the listener was told, each with its transport. -/
def reports (journal : List Entry) : List (Nat × ReadyState) := journal.filterMap Entry.report?

/-- The states of transport `t` that the listener was told. -/
def reportsOf (journal : List Entry) (t : Nat) : List ReadyState :=
  ((reports journal).filter (·.1 = t)).map Prod.snd

/-! ## Reports in blocks -/

section Blocks

variable {j : List Entry} {n t : Nat} {s : ReadyState}

/-- Reports are read off entry by entry. -/
theorem reports_append (j : List Entry) (e : Entry) :
    reports (j ++ [e]) = reports j ++ e.report?.toList := by
  cases he : e.report? with
  | none => simp [reports, List.filterMap_append, he]
  | some x => simp [reports, List.filterMap_append, he]

/-- An entry that reports nothing adds nothing. -/
theorem reports_append_of_none {e : Entry} (he : e.report? = none) :
    reports (j ++ [e]) = reports j := by
  rw [reports_append, he, Option.toList_none, List.append_nil]

/-- The reports of a transport are those that name it. -/
theorem mem_reportsOf : s ∈ reportsOf j t ↔ (t, s) ∈ reports j := by
  simp only [reportsOf, List.mem_map, List.mem_filter, decide_eq_true_eq]
  constructor
  · intro h
    obtain ⟨x, ⟨hmem, hx⟩, hs⟩ := h
    rw [← hx, ← hs]
    exact hmem
  · intro hmem
    exact ⟨(t, s), ⟨hmem, rfl⟩, rfl⟩

/-- A state that is told is the last report of its transport, and no other
transport's. -/
theorem reportsOf_append_told (j : List Entry) (t u : Nat) (s : ReadyState)
    (standing : Standing) :
    reportsOf (j ++ [.told t (.state s) standing]) u =
      reportsOf j u ++ if t = u then [s] else [] := by
  have hreport : (Entry.told t (.state s) standing).report?.toList = [(t, s)] := rfl
  rw [reportsOf, reports_append, hreport, List.filter_append, List.map_append, reportsOf]
  by_cases h : t = u
  · simp [h]
  · simp [h]

/-- The entries with the largest key stand at the end of a list whose keys
ascend. -/
theorem eq_filter_lt_append_filter_eq {l : List (Nat × ReadyState)} (hlt : ∀ x ∈ l, x.1 < n + 1)
    (hl : l.Pairwise fun x y => x.1 ≤ y.1) : l = l.filter (·.1 < n) ++ l.filter (·.1 = n) := by
  induction l with
  | nil => rfl
  | cons x l ih =>
    obtain ⟨hx, hl⟩ := List.pairwise_cons.mp hl
    have hrest := ih (fun y hy => hlt y (List.mem_cons_of_mem x hy)) hl
    have hxn := hlt x List.mem_cons_self
    by_cases hn : x.1 < n
    · have hne : x.1 ≠ n := by omega
      have hbelow : (x :: l).filter (·.1 < n) = x :: l.filter (·.1 < n) := by simp [hn]
      have hat : (x :: l).filter (·.1 = n) = l.filter (·.1 = n) := by simp [hne]
      rw [hbelow, hat, List.cons_append, ← hrest]
    · -- nothing behind `x` has a smaller key
      have hnone : l.filter (·.1 < n) = [] := by
        rw [List.filter_eq_nil_iff]
        intro y hy
        have hxy := hx y hy
        simp only [decide_eq_true_eq]
        omega
      rw [hnone, List.nil_append] at hrest
      have heq : x.1 = n := by omega
      have hbelow : (x :: l).filter (·.1 < n) = [] := by simp [hn, hnone]
      have hat : (x :: l).filter (·.1 = n) = x :: l.filter (·.1 = n) := by simp [heq]
      rw [hbelow, hat, List.nil_append, ← hrest]

/-- A list whose keys ascend and are below `n` is made of one block a
key. -/
theorem eq_flatMap_filter {l : List (Nat × ReadyState)} (hlt : ∀ x ∈ l, x.1 < n)
    (hl : l.Pairwise fun x y => x.1 ≤ y.1) :
    l = (List.range n).flatMap fun t => l.filter (·.1 = t) := by
  induction n generalizing l with
  | zero =>
    have hnil : l = [] := by
      rw [List.eq_nil_iff_forall_not_mem]
      intro x hx
      have hx0 := hlt x hx
      omega
    rw [hnil]
    rfl
  | succ n ih =>
    have hlow : ∀ x ∈ l.filter (·.1 < n), x.1 < n := by
      intro x hx
      simpa using (List.mem_filter.mp hx).2
    have hsame : (List.range n).flatMap (fun t => (l.filter (·.1 < n)).filter (·.1 = t)) =
        (List.range n).flatMap fun t => l.filter (·.1 = t) := by
      apply List.flatMap_congr
      intro t ht
      have htn := List.mem_range.mp ht
      rw [List.filter_filter]
      apply List.filter_congr
      intro x _
      by_cases hxt : x.1 = t
      · simp only [hxt, htn, decide_true, Bool.and_true]
      · simp only [hxt, decide_false, Bool.false_and]
    calc
      l = l.filter (·.1 < n) ++ l.filter (·.1 = n) := eq_filter_lt_append_filter_eq hlt hl
      _ = (List.range n).flatMap (fun t => l.filter (·.1 = t)) ++ l.filter (·.1 = n) := by
        rw [← hsame, ← ih hlow (hl.filter _)]
      _ = (List.range (n + 1)).flatMap fun t => l.filter (·.1 = t) := by
        rw [List.range_succ, List.flatMap_append, List.flatMap_singleton]

/-- Reports whose transports ascend, one block a transport. -/
theorem reports_eq_flatMap (hlt : ∀ x ∈ reports j, x.1 < n)
    (hj : (reports j).Pairwise fun x y => x.1 ≤ y.1) :
    reports j = (List.range n).flatMap fun t => (reportsOf j t).map (t, ·) := by
  have hblock : ∀ t, (reports j).filter (·.1 = t) = (reportsOf j t).map (t, ·) := by
    intro t
    have hpairs : ∀ x ∈ (reports j).filter (·.1 = t), ((t, ·) ∘ Prod.snd) x = id x := by
      intro x hx
      have hxt : x.1 = t := by simpa using (List.mem_filter.mp hx).2
      rw [← hxt]
      rfl
    rw [reportsOf, List.map_map, List.map_congr_left hpairs, List.map_id]
  simp only [← hblock]
  exact eq_flatMap_filter hlt hj

end Blocks

end PushRelay
