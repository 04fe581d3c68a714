import PushRelay.Connection.Recorder
import PushRelay.Proofs.Connection.Reports
import PushRelay.Proofs.Connection.Step
import PushRelay.Proofs.Transport.Commands

/-!
# PushRelay.Proofs.Connection.Staleness

The listener is told the state of a transport, and that it has opened, only
while it is the current one.

The current transport is always the newest one (`Newest`), so the reports
of a transport end when the next one is made: they form one block a
transport, in the order in which the transports were made.  A block is not
empty, since a new transport is reported at once, and its states ascend if
those of transports do.
-/

namespace PushRelay

/-- The states of transports only go forward, whatever is done to them. -/
structure Transport.Forward (τ : Type) [Transport τ] : Prop where
  close : ∀ x : τ, (Transport.state x).code ≤ (Transport.state (Transport.close x)).code
  send : ∀ (frame : String) (x : τ),
    (Transport.state x).code ≤ (Transport.state (Transport.send frame x).2).code

/-- What is told of transport `t` agrees with how the connection stands. -/
def Standing.Admits (standing : Standing) (t : Nat) : News → Prop
  | .state s => standing.current = some t ∧ standing.states[t]? = some s
  | .opened => standing.current = some t
  | .closed _ _ | .failed _ => True

namespace Connection

variable {γ τ η ℓ : Type} [Transport τ] {c d : Connection γ τ η ℓ}

/-! ## The journal agrees with the transports -/

/-- What was told was so at that moment, and in the order in which the
transports were made. -/
structure Faithful (c : Connection γ τ η ℓ) : Prop where
  admitted : ∀ t news standing, .told t news standing ∈ c.journal → standing.Admits t news
  created_lt : ∀ u, .created u ∈ c.journal → u < c.transports.length
  /-- no state of an older transport is told once a newer one was made -/
  superseded : c.journal.Pairwise fun e e' =>
    ∀ u t s standing, e = .created u → e' = .told t (.state s) standing → u ≤ t
  report_lt : ∀ x ∈ reports c.journal, x.1 < c.transports.length
  ascending : (reports c.journal).Pairwise fun x y => x.1 ≤ y.1

/-- What may be told agrees with how the connection stands. -/
theorem MayTell.admits (hnew : c.Newest) {t : Nat} {news : News} (may : c.MayTell t news) :
    c.standing.Admits t news := by
  cases news with
  | state s =>
    obtain ⟨hown, hs⟩ := may
    obtain ⟨x, hx⟩ := hnew.exists_transport hown
    have hstate : c.standing.states[t]? = some (Transport.state x) := by
      rw [standing, List.getElem?_map, hx, Option.map_some]
    rw [hs, stateOn_of_getElem? hx]
    exact ⟨hown, hstate⟩
  | opened => exact may
  | closed code reason => trivial
  | failed message => trivial

/-- Only the state of the newest transport is told. -/
theorem MayTell.report (hnew : c.Newest) {t : Nat} {news : News} (may : c.MayTell t news)
    (standing : Standing) {x : Nat × ReadyState}
    (hx : (Entry.told t news standing).report? = some x) : x.1 + 1 = c.transports.length := by
  cases news with
  | state s =>
    have hself : (t, s) = x := Option.some.inj hx
    rw [← hself]
    exact hnew.length_of_own may.1
  | opened | closed | failed => cases hx

omit [Transport τ] in
/-- A journal stays faithful with a further entry, if it tells what is so,
and reports nothing but the newest transport. -/
theorem Faithful.append (hc : c.Faithful) {e : Entry}
    (hadmits : ∀ t news standing, e = .told t news standing → standing.Admits t news)
    (hcreated : ∀ u, e = .created u → u < d.transports.length)
    (hreport : ∀ x, e.report? = some x → x.1 + 1 = c.transports.length)
    (hj : d.journal = c.journal ++ [e])
    (hlength : c.transports.length ≤ d.transports.length) : d.Faithful := by
  constructor
  case admitted =>
    intro t news standing hmem
    rw [hj, List.mem_append, List.mem_singleton] at hmem
    cases hmem with
    | inl hold => exact hc.admitted t news standing hold
    | inr hself => exact hadmits t news standing hself.symm
  case created_lt =>
    intro u hmem
    rw [hj, List.mem_append, List.mem_singleton] at hmem
    cases hmem with
    | inl hold => exact Nat.lt_of_lt_of_le (hc.created_lt u hold) hlength
    | inr hself => exact hcreated u hself.symm
  case superseded =>
    rw [hj, List.pairwise_append]
    constructor
    · exact hc.superseded
    · constructor
      · exact List.pairwise_singleton ..
      · intro e' he' e'' he'' u t s standing hu ht
        rw [hu] at he'
        rw [← List.mem_singleton.mp he'', ht] at hreport
        have hlt := hc.created_lt u he'
        have hnewest : t + 1 = c.transports.length := hreport (t, s) rfl
        omega
  case report_lt =>
    intro x hx
    rw [hj, reports_append, List.mem_append, Option.mem_toList] at hx
    cases hx with
    | inl hold => exact Nat.lt_of_lt_of_le (hc.report_lt x hold) hlength
    | inr hself =>
      have hnewest := hreport x hself
      omega
  case ascending =>
    rw [hj, reports_append, List.pairwise_append]
    constructor
    · exact hc.ascending
    · constructor
      · cases e.report? with
        | none => exact .nil
        | some x => exact List.pairwise_singleton ..
      · intro x hx y hy
        have hlt := hc.report_lt x hx
        have hnewest := hreport y (Option.mem_toList.mp hy)
        omega

omit [Transport τ] in
/-- Where no transport is told of or made, that is all there is to show. -/
theorem Faithful.append_other (hc : c.Faithful) {e : Entry}
    (htold : ∀ t news standing, e ≠ .told t news standing) (hcreated : ∀ u, e ≠ .created u)
    (hj : d.journal = c.journal ++ [e]) (hlength : d.transports.length = c.transports.length) :
    d.Faithful := by
  have hreport : ∀ x, e.report? = some x → x.1 + 1 = c.transports.length := by
    intro x hx
    cases e with
    | told t news standing => exact absurd rfl (htold t news standing)
    | created | unheard | sent | closed | printed => cases hx
  exact hc.append (fun t news standing he => absurd he (htold t news standing))
    (fun u he => absurd he (hcreated u)) hreport hj (Nat.le_of_eq hlength.symm)

/-- In every step what is told is so at that moment. -/
theorem faithful_step [Connector γ τ] (h : Step c d) (hc : c.Faithful) (hnew : c.Newest) :
    d.Faithful := by
  cases h with
  | @created x k closed made =>
    have hlength : (c.install x k).transports.length = c.transports.length + 1 := by
      simp [install, note]
    apply hc.append (e := .created c.transports.length)
    · intro t news standing he
      cases he
    · intro u he
      cases he
      omega
    · intro x hx
      cases hx
    · rfl
    · omega
  | @told t news may =>
    apply hc.append (e := .told t news c.standing)
    · intro t' news' standing he
      cases he
      exact may.admits hnew
    · intro u he
      cases he
    · intro x hx
      exact may.report hnew c.standing hx
    · rfl
    · exact Nat.le_refl _
  | sent => exact hc.append_other (by simp) (by simp) rfl List.length_set
  | closed => exact hc.append_other (by simp) (by simp) rfl (List.length_modify ..)
  | unheard | printed => exact hc.append_other (by simp) (by simp) rfl rfl
  | connector | handler | listener | queue | dropped =>
    exact ⟨hc.admitted, hc.created_lt, hc.superseded, hc.report_lt, hc.ascending⟩

/-! ## Every transport is reported -/

/-- The listener was told a state of every transport. -/
def Reported (c : Connection γ τ η ℓ) : Prop :=
  ∀ t < c.transports.length, reportsOf c.journal t ≠ []

omit [Transport τ] in
/-- A report that was made is not taken back. -/
theorem reportsOf_ne_nil_mono (hj : c.journal <+: d.journal) {t : Nat}
    (ht : reportsOf c.journal t ≠ []) : reportsOf d.journal t ≠ [] := by
  obtain ⟨s, hs⟩ := List.exists_mem_of_ne_nil _ ht
  have hreports : reports c.journal <+: reports d.journal := hj.filterMap _
  have hmem : (t, s) ∈ reports d.journal := hreports.subset (mem_reportsOf.mp hs)
  exact List.ne_nil_of_mem (mem_reportsOf.mpr hmem)

section

variable [Connector γ τ] [Listener ℓ]

/-- A new transport is reported at once, however the listener takes it. -/
theorem reported_tellState_install (hc : c.Reported) (x : τ) (k : γ) :
    ((c.install x k).tellState c.transports.length).2.Reported := by
  have hown : (c.install x k).own = some c.transports.length := rfl
  have hlength := (quiet_tellState (c.install x k) c.transports.length).length
  rw [tellState, if_pos hown] at hlength ⊢
  have hreact := steps_react (c.install x k) c.transports.length (c.install x k).shared
    (.state ((c.install x k).stateOn (some c.transports.length)))
  intro t ht
  rw [hlength, install, note, List.length_append, List.length_singleton] at ht
  apply reportsOf_ne_nil_mono (journal_prefix_steps hreact)
  rw [note, reportsOf_append_told]
  by_cases hnew : c.transports.length = t
  · simp [hnew]
  · have hold : reportsOf (c.install x k).journal t ≠ [] :=
      reportsOf_ne_nil_mono (c := c) (List.prefix_append ..) (hc t (by omega))
    exact List.append_ne_nil_of_left_ne_nil hold _

/-- Of a new transport a state is told at once. -/
theorem reported_connect (hc : c.Reported) : c.connect.2.Reported := by
  by_cases hclosed : c.state = .closed
  · cases hk : Connector.connect c.url c.connector with
    | mk result k =>
      cases result with
      | error e =>
        rw [connect_of_error hclosed hk]
        exact hc
      | ok x =>
        have htold := reported_tellState_install hc x k
        rw [connect_of_closed hclosed hk]
        split
        · exact htold
        · intro t ht
          rw [(quiet_closeTransport _ _).length] at ht
          exact reportsOf_ne_nil_mono (List.prefix_append ..) (htold t ht)
  · rw [connect_of_not_closed hclosed]
    exact hc

variable [MessageHandler η]

/-- No action leaves a transport behind of which no state was told. -/
theorem reported_act (hc : c.Reported) (a : Action γ τ η ℓ) : (c.act a).2.Reported := by
  by_cases ha : a = .connect
  · subst ha
    exact reported_connect hc
  · intro t ht
    rw [(quiet_act c ha).length] at ht
    apply reportsOf_ne_nil_mono (journal_prefix_act c a)
    exact hc t ht

end

/-! ## Transports go forward -/

/-- No change that a transport undergoes by itself takes it back. -/
def Action.Forward : Action γ τ η ℓ → Prop
  | .move _ f => ∀ x : τ, (Transport.state x).code ≤ (Transport.state (f x)).code
  | _ => True

/-- From `c` to `d` no transport was lost or went back. -/
def Onward (c d : Connection γ τ η ℓ) : Prop :=
  ∀ (t : Nat) x, c.transports[t]? = some x → ∃ y, d.transports[t]? = some y ∧
    (Transport.state x).code ≤ (Transport.state y).code

/-- Transports that are the same have not gone back. -/
theorem Onward.of_transports (h : d.transports = c.transports) : c.Onward d :=
  fun _ x hx => ⟨x, h ▸ hx, Nat.le_refl _⟩

/-- What goes onward twice goes onward. -/
theorem Onward.trans {e : Connection γ τ η ℓ} (h : c.Onward d) (h' : d.Onward e) : c.Onward e := by
  intro t x hx
  obtain ⟨y, hy, hxy⟩ := h t x hx
  obtain ⟨z, hz, hyz⟩ := h' t y hy
  exact ⟨z, hz, Nat.le_trans hxy hyz⟩

/-- A transport that changes goes onward if the change does. -/
theorem onward_move (c : Connection γ τ η ℓ) (i : Nat) {f : τ → τ}
    (hf : ∀ x : τ, (Transport.state x).code ≤ (Transport.state (f x)).code) :
    c.Onward (c.move i f) := by
  intro t x hx
  by_cases hit : i = t
  · exact ⟨f x, by simp [move, hit, hx], hf x⟩
  · exact ⟨x, by simp [move, hit, hx], Nat.le_refl _⟩

/-- In every step transports go onward. -/
theorem onward_step [Connector γ τ] (law : Transport.Forward τ) (h : Step c d) : c.Onward d := by
  cases h with
  | @created x k closed made =>
    intro t y hy
    have ht : t < c.transports.length := (List.getElem?_eq_some_iff.mp hy).1
    exact ⟨y, by rw [install, note, List.getElem?_append_left ht, hy], Nat.le_refl _⟩
  | @sent i x frame there opened =>
    intro t y hy
    rw [note, List.getElem?_set]
    by_cases hit : i = t
    · subst hit
      have hlt : i < c.transports.length := (List.getElem?_eq_some_iff.mp hy).1
      have hxy : x = y := Option.some.inj (there.symm.trans hy)
      refine ⟨(Transport.send frame x).2, by rw [if_pos rfl, if_pos hlt], ?_⟩
      rw [← hxy]
      exact law.send frame x
    · exact ⟨y, by rw [if_neg hit, hy], Nat.le_refl _⟩
  | closed t =>
    have hmoved := onward_move c t law.close
    exact hmoved.trans (.of_transports rfl)
  | told | unheard | printed | connector | handler | listener | queue | dropped =>
    exact .of_transports rfl

/-- So they do along a chain of steps. -/
theorem onward_steps [Connector γ τ] (law : Transport.Forward τ) (h : Steps c d) : c.Onward d :=
  steps_invariant (fun _ _ step hc => hc.trans (onward_step law step)) h (.of_transports rfl)

/-! ## Reports ascend with the states of transports -/

/-- The reports of a transport ascend, and its state has reached the last
one. -/
structure Ascends (c : Connection γ τ η ℓ) : Prop where
  reached : ∀ t s x, (t, s) ∈ reports c.journal → c.transports[t]? = some x →
    s.code ≤ (Transport.state x).code
  ascending : ∀ t, (reportsOf c.journal t).Pairwise fun s s' => s.code ≤ s'.code

/-- Nothing is reported, and transports only go forward. -/
theorem Ascends.of_onward (hc : c.Ascends) (hj : reports d.journal = reports c.journal)
    (honward : c.Onward d) (hlt : ∀ x ∈ reports c.journal, x.1 < c.transports.length) :
    d.Ascends where
  reached t s y hs hy := by
    rw [hj] at hs
    have hx := List.getElem?_eq_getElem (hlt (t, s) hs)
    obtain ⟨y', hy', hle⟩ := honward t _ hx
    rw [Option.some.inj (hy.symm.trans hy')]
    exact Nat.le_trans (hc.reached t s _ hs hx) hle
  ascending t := by
    rw [reportsOf, hj]
    exact hc.ascending t

/-- The state of the current transport is reported, and it is not behind
what was reported before. -/
theorem ascends_told_state (hc : c.Ascends) {t : Nat} {s : ReadyState} {x : τ}
    (hx : c.transports[t]? = some x) (hs : s = Transport.state x) (standing : Standing) :
    (c.note (.told t (.state s) standing)).Ascends := by
  constructor
  case reached =>
    intro u r y hr hy
    rw [note, reports_append, List.mem_append, Option.mem_toList] at hr
    cases hr with
    | inl hold => exact hc.reached u r y hold hy
    | inr hself =>
      cases hself
      have hxy : x = y := Option.some.inj (hx.symm.trans hy)
      have hcode : s.code = (Transport.state y).code := by rw [hs, hxy]
      exact Nat.le_of_eq hcode
  case ascending =>
    intro u
    rw [note, reportsOf_append_told]
    split
    · next htu =>
      subst htu
      rw [List.pairwise_append]
      constructor
      · exact hc.ascending t
      · constructor
        · exact List.pairwise_singleton ..
        · intro r hr r' hr'
          rw [List.mem_singleton.mp hr', hs]
          exact hc.reached t r x (mem_reportsOf.mp hr) hx
    · rw [List.append_nil]
      exact hc.ascending u

/-- In every step the reports of a transport ascend. -/
theorem ascends_step [Connector γ τ] (law : Transport.Forward τ) (h : Step c d) (hc : c.Ascends)
    (hnew : c.Newest) (hlt : ∀ x ∈ reports c.journal, x.1 < c.transports.length) : d.Ascends := by
  have honward := onward_step law h
  cases h with
  | @told t news may =>
    cases news with
    | state s =>
      obtain ⟨hown, hs⟩ := may
      obtain ⟨x, hx⟩ := hnew.exists_transport hown
      rw [stateOn_of_getElem? hx] at hs
      exact ascends_told_state hc hx hs c.standing
    | opened | closed | failed => exact hc.of_onward (reports_append_of_none rfl) honward hlt
  | created | sent | closed | unheard | printed =>
    exact hc.of_onward (reports_append_of_none rfl) honward hlt
  | connector | handler | listener | queue | dropped => exact hc.of_onward rfl honward hlt

/-! ## Runs -/

section

omit [Transport τ]

variable {url : String} {k : γ} {h : η} {l : ℓ}

/-- A new connection has told nothing that is not so. -/
theorem faithful_of_ofUrl (hstart : ofUrl url k h l = .ok c) : c.Faithful := by
  obtain ⟨-, rfl⟩ := ofUrl_eq_ok_iff.mp hstart
  constructor
  case admitted => exact fun t news standing hmem => absurd hmem List.not_mem_nil
  case created_lt => exact fun u hmem => absurd hmem List.not_mem_nil
  case superseded => exact .nil
  case report_lt => exact fun x hx => absurd hx List.not_mem_nil
  case ascending => exact .nil

/-- What was told stays true of its moment when a transport changes. -/
theorem Faithful.move (hc : c.Faithful) (t : Nat) (f : τ → τ) : (c.move t f).Faithful := by
  have hlength : (c.move t f).transports.length = c.transports.length := List.length_modify ..
  constructor
  case admitted => exact hc.admitted
  case created_lt =>
    intro u hu
    rw [hlength]
    exact hc.created_lt u hu
  case superseded => exact hc.superseded
  case report_lt =>
    intro x hx
    rw [hlength]
    exact hc.report_lt x hx
  case ascending => exact hc.ascending

end

section

variable [Connector γ τ] [Listener ℓ] [MessageHandler η]
variable {url : String} {k : γ} {h : η} {l : ℓ} {c₀ : Connection γ τ η ℓ}

/-- In every run what is told is so at that moment. -/
theorem faithful_after (hstart : ofUrl url k h l = .ok c₀) (acts : List (Action γ τ η ℓ)) :
    (c₀.after acts).Newest ∧ (c₀.after acts).Faithful := by
  apply after_invariant (I := fun c => c.Newest ∧ c.Faithful)
  · intro c d step hboth
    obtain ⟨hnew, hc⟩ := hboth
    exact ⟨newest_step step hnew, faithful_step step hc hnew⟩
  · intro c t f _ hboth
    exact ⟨hboth.1.move t f, hboth.2.move t f⟩
  · exact ⟨newest_of_ofUrl hstart, faithful_of_ofUrl hstart⟩

/-- In every run in which transports go onward, their reports ascend. -/
theorem ascends_after (hstart : ofUrl url k h l = .ok c₀) (law : Transport.Forward τ)
    {acts : List (Action γ τ η ℓ)} (hacts : ∀ a ∈ acts, a.Forward) :
    (c₀.after acts).Newest ∧ (c₀.after acts).Faithful ∧ (c₀.after acts).Ascends := by
  apply after_invariant (I := fun c => c.Newest ∧ c.Faithful ∧ c.Ascends)
  · intro c d step hall
    obtain ⟨hnew, hc, hasc⟩ := hall
    exact ⟨newest_step step hnew, faithful_step step hc hnew,
      ascends_step law step hasc hnew hc.report_lt⟩
  · intro c t f hf hall
    obtain ⟨hnew, hc, hasc⟩ := hall
    exact ⟨hnew.move t f, hc.move t f,
      hasc.of_onward rfl (onward_move c t (hacts _ hf)) hc.report_lt⟩
  · have hasc : c₀.Ascends := by
      obtain ⟨-, rfl⟩ := ofUrl_eq_ok_iff.mp hstart
      exact ⟨fun t s x hs => absurd hs List.not_mem_nil, fun t => .nil⟩
    exact ⟨newest_of_ofUrl hstart, faithful_of_ofUrl hstart, hasc⟩

/-- In every run a state was told of every transport. -/
theorem reported_after (hstart : ofUrl url k h l = .ok c₀) (acts : List (Action γ τ η ℓ)) :
    (c₀.after acts).Reported := by
  apply after_induction
  · obtain ⟨-, rfl⟩ := ofUrl_eq_ok_iff.mp hstart
    exact fun t ht => absurd ht (Nat.not_lt_zero t)
  · intro c a _ hc
    exact reported_act hc a

/-- In every run the listener is told the state of a transport, and that it
has opened, only while it is the current one, and its state is what it is
told.  So the reports are one block a transport, in the order in which they
were made, and none of the blocks is empty; nothing is reported of an older
transport once a newer one was made; and each block ascends if the states
of transports do. -/
theorem reports_after (hstart : ofUrl url k h l = .ok c₀) (acts : List (Action γ τ η ℓ)) :
    (∀ t s standing, .told t (.state s) standing ∈ (c₀.after acts).journal →
      standing.current = some t ∧ standing.states[t]? = some s) ∧
    (∀ t standing, .told t .opened standing ∈ (c₀.after acts).journal →
      standing.current = some t) ∧
    reports (c₀.after acts).journal =
      (List.range (c₀.after acts).transports.length).flatMap
        (fun t => (reportsOf (c₀.after acts).journal t).map (t, ·)) ∧
    (∀ t < (c₀.after acts).transports.length, reportsOf (c₀.after acts).journal t ≠ []) ∧
    (∀ before u between t s standing rest,
      (c₀.after acts).journal =
        before ++ .created u :: between ++ .told t (.state s) standing :: rest → u ≤ t) ∧
    (Transport.Forward τ → (∀ a ∈ acts, a.Forward) →
      ∀ t, (reportsOf (c₀.after acts).journal t).Pairwise fun s s' => s.code ≤ s'.code) := by
  obtain ⟨-, hc⟩ := faithful_after hstart acts
  have hsuperseded : ∀ before u between t s standing rest,
      (c₀.after acts).journal =
        before ++ .created u :: between ++ .told t (.state s) standing :: rest → u ≤ t := by
    intro before u between t s standing rest hj
    have hpairs := hc.superseded
    rw [hj, List.pairwise_append] at hpairs
    have hu : .created u ∈ before ++ .created u :: between := by simp
    exact hpairs.2.2 _ hu _ List.mem_cons_self u t s standing rfl rfl
  have hascending : Transport.Forward τ → (∀ a ∈ acts, a.Forward) →
      ∀ t, (reportsOf (c₀.after acts).journal t).Pairwise fun s s' => s.code ≤ s'.code := by
    intro law hacts t
    exact (ascends_after hstart law hacts).2.2.ascending t
  exact ⟨fun t s standing hmem => hc.admitted t (.state s) standing hmem,
    fun t standing hmem => hc.admitted t .opened standing hmem,
    reports_eq_flatMap hc.report_lt hc.ascending, reported_after hstart acts, hsuperseded,
    hascending⟩

end

/-- Sockets go onward whatever they are asked. -/
theorem socket_forward : Transport.Forward Socket where
  close := Socket.code_le_close
  send frame x := Socket.code_le_send x frame

/-- A socket opens and closes, and its closing and a late opening come in
after the next socket was made, while the listener fails at its second
state: the reports of the first socket end before those of the second. -/
theorem reports_after_reconnect :
    let c₀ : Connection SocketConfig Socket RecordingHandler Recorder :=
      { url := "ws://a", connector := {}, handler := ⟨.ofProtocol ∅, []⟩,
        listener := { failures := [(.state, 2)] } }
    let acts : List (Action SocketConfig Socket RecordingHandler Recorder) :=
      [.connect, .move 0 fun x => x.tryOpen.2, .handleEvent ⟨0, .opened⟩,
        .move 0 fun x => x.setState .closed, .handleEvent ⟨0, .closed none ""⟩, .connect,
        .handleEvent ⟨0, .opened⟩, .handleEvent ⟨0, .failed "late"⟩]
    ofUrl c₀.url c₀.connector c₀.handler c₀.listener = .ok c₀ ∧
      Transport.Forward Socket ∧ (∀ a ∈ acts, a.Forward) ∧
      reports (c₀.after acts).journal =
        [(0, .connecting), (0, .opened), (0, .closed), (1, .connecting)] ∧
      ∀ t, (reportsOf (c₀.after acts).journal t).Pairwise fun s s' => s.code ≤ s'.code := by
  intro c₀ acts
  have hstart : ofUrl c₀.url c₀.connector c₀.handler c₀.listener = .ok c₀ := rfl
  have hacts : ∀ a ∈ acts, a.Forward := by
    simp only [acts, List.forall_mem_cons, Action.Forward, List.not_mem_nil, false_implies,
      implies_true, and_true, true_and]
    constructor
    · intro x
      show x.state.code ≤ x.tryOpen.2.state.code
      unfold Socket.tryOpen
      split
      · next hx => simp [hx, ReadyState.code]
      · exact Nat.le_refl _
    · intro x
      show x.state.code ≤ ReadyState.closed.code
      cases x.state <;> decide
  have hrun := reports_after hstart acts
  have hreports : reports (c₀.after acts).journal =
      [(0, .connecting), (0, .opened), (0, .closed), (1, .connecting)] := by decide +kernel
  exact ⟨hstart, socket_forward, hacts, hreports, hrun.2.2.2.2.2 socket_forward hacts⟩

end Connection

end PushRelay
