/-
# How tokens are claimed

The tokens of a command line are claimed one position after the other.  At each position the
plugins are asked in the order of their registration, until one of them claims tokens or refuses
its configuration; those after it are not asked.  The next position lies behind the tokens that were
claimed, which may be behind the end of the command line.

A `Pipeline.Trace` is such a sequence of positions together with what ends it.  Whatever the plugins
do, parsing gives what the trace of the tokens gives, and the plugins that are turned on come after
those that were on before, in the order of their first claims (`Pipeline.parseArguments_iff_trace`).
-/
import Mathlib.Data.List.Sort
import Mathlib.Tactic.Common
import ClassGen.Pipeline

namespace ClassGen

open Text

/-! ### One plugin and one position -/

namespace Plugin

variable (cp : Classpath) (args : List String) (i : Nat) (token : String)

/-- The plugin after it was asked about the tokens from position `i` on. -/
def asked (p : Plugin) : Plugin := (p.offer cp args i).2

/-- The plugin claims nothing, and the token is not its flag. -/
structure Passes (p : Plugin) : Prop where
  answer : (p.offer cp args i).1 = .ok 0
  flag : trim token ≠ (p.asked cp args i).flag

/-- The plugin claims this many tokens: those that it answers with, or the one that is its flag. -/
inductive Accepts (p : Plugin) : Nat → Prop
  | count {n : Nat} : 0 < n → (p.offer cp args i).1 = .ok n → Accepts p n
  | flag : (p.offer cp args i).1 = .ok 0 → trim token = (p.asked cp args i).flag → Accepts p 1

/-- The plugin refuses its configuration. -/
def Refuses (p : Plugin) (cause : ConfigurationError) : Prop :=
  (p.offer cp args i).1 = .error cause

variable {cp args i token} {p : Plugin} {n : Nat}

lemma Accepts.pos (h : p.Accepts cp args i token n) : 0 < n := by
  cases h with
  | count hpos _ => exact hpos
  | flag => exact Nat.one_pos

lemma passes_or_accepts_or_refuses (cp : Classpath) (args : List String) (i : Nat)
    (token : String) (p : Plugin) :
    p.Passes cp args i token ∨ (∃ n, p.Accepts cp args i token n) ∨
      ∃ cause, p.Refuses cp args i cause := by
  rcases hanswer : (p.offer cp args i).1 with cause | n
  · exact Or.inr (Or.inr ⟨cause, hanswer⟩)
  · rcases Nat.eq_zero_or_pos n with rfl | hpos
    · by_cases hflag : trim token = (p.asked cp args i).flag
      · exact Or.inr (Or.inl ⟨1, .flag hanswer hflag⟩)
      · exact Or.inl ⟨hanswer, hflag⟩
    · exact Or.inr (Or.inl ⟨n, .count hpos hanswer⟩)

end Plugin

/-! ### All plugins and one position -/

namespace Claim

variable (cp : Classpath) (args : List String) (i : Nat) (token : String)

/-- What becomes of the tokens from position `i` on, the first of which is `token`, and of the
plugins: the first plugin that does not pass decides, and those after it are left as they are. -/
inductive Settles : List Plugin → Claim → List Plugin → Prop
  | claimed {before after : List Plugin} {p : Plugin} {n : Nat} :
      (∀ q ∈ before, q.Passes cp args i token) → p.Accepts cp args i token n →
      Settles (before ++ p :: after) (.claimed before.length n)
        (before.map (·.asked cp args i) ++ p.asked cp args i :: after)
  | refused {before after : List Plugin} {p : Plugin} {cause : ConfigurationError} :
      (∀ q ∈ before, q.Passes cp args i token) → p.Refuses cp args i cause →
      Settles (before ++ p :: after) (.refused cause)
        (before.map (·.asked cp args i) ++ p.asked cp args i :: after)
  | unclaimed {plugins : List Plugin} : (∀ q ∈ plugins, q.Passes cp args i token) →
      Settles plugins .unclaimed (plugins.map (·.asked cp args i))

variable {cp args i token} {p : Plugin} {before plugins plugins' : List Plugin} {claim : Claim}

lemma Settles.pos {k n : Nat} (h : Settles cp args i token plugins (.claimed k n) plugins') :
    0 < n := by
  cases h with
  | claimed _ haccepts => exact haccepts.pos

lemma among_append_of_passes (h : ∀ q ∈ before, q.Passes cp args i token) (k : Nat)
    (rest : List Plugin) :
    among cp args i token k (before ++ rest) =
      ((among cp args i token (k + before.length) rest).1,
        before.map (·.asked cp args i) ++ (among cp args i token (k + before.length) rest).2) := by
  induction before generalizing k with
  | nil => simp
  | cons q before ih =>
    obtain ⟨hq, hbefore⟩ := List.forall_mem_cons.1 h
    have hoffer : q.offer cp args i = (.ok 0, q.asked cp args i) := Prod.ext hq.answer rfl
    have hlength : k + (q :: before).length = k + 1 + before.length := by
      rw [List.length_cons]
      omega
    rw [List.cons_append, among, hoffer, hlength]
    simp only [hq.flag, if_false, ih hbefore (k + 1), List.map_cons, List.cons_append]

lemma among_cons_of_accepts {n : Nat} (h : p.Accepts cp args i token n) (k : Nat)
    (after : List Plugin) :
    among cp args i token k (p :: after) = (.claimed k n, p.asked cp args i :: after) := by
  cases h with
  | @count n hpos hanswer =>
    obtain ⟨m, rfl⟩ := Nat.exists_eq_add_one.2 hpos
    have hoffer : p.offer cp args i = (.ok (m + 1), p.asked cp args i) := Prod.ext hanswer rfl
    rw [among, hoffer]
  | flag hanswer hflag =>
    have hoffer : p.offer cp args i = (.ok 0, p.asked cp args i) := Prod.ext hanswer rfl
    rw [among, hoffer]
    simp only [hflag, if_true]

lemma among_cons_of_refuses {cause : ConfigurationError} (h : p.Refuses cp args i cause) (k : Nat)
    (after : List Plugin) :
    among cp args i token k (p :: after) = (.refused cause, p.asked cp args i :: after) := by
  have hoffer : p.offer cp args i = (.error cause, p.asked cp args i) := Prod.ext h rfl
  rw [among, hoffer]

lemma among_of_settles (h : Settles cp args i token plugins claim plugins') :
    among cp args i token 0 plugins = (claim, plugins') := by
  cases h with
  | claimed hbefore haccepts =>
    rw [among_append_of_passes hbefore, among_cons_of_accepts haccepts, Nat.zero_add]
  | refused hbefore hrefuses =>
    rw [among_append_of_passes hbefore, among_cons_of_refuses hrefuses]
  | unclaimed hall =>
    have happend := among_append_of_passes hall 0 []
    rw [List.append_nil] at happend
    rw [happend, among, List.append_nil]

lemma Settles.exists_cons (hp : p.Passes cp args i token)
    (h : Settles cp args i token plugins claim plugins') :
    ∃ claim', Settles cp args i token (p :: plugins) claim' (p.asked cp args i :: plugins') := by
  cases h with
  | @claimed before after q n hbefore haccepts =>
    have hcons : ∀ r ∈ p :: before, r.Passes cp args i token :=
      List.forall_mem_cons.2 ⟨hp, hbefore⟩
    exact ⟨_, Settles.claimed hcons haccepts⟩
  | @refused before after q cause hbefore hrefuses =>
    have hcons : ∀ r ∈ p :: before, r.Passes cp args i token :=
      List.forall_mem_cons.2 ⟨hp, hbefore⟩
    exact ⟨_, Settles.refused hcons hrefuses⟩
  | unclaimed hall => exact ⟨_, Settles.unclaimed (List.forall_mem_cons.2 ⟨hp, hall⟩)⟩

lemma exists_settles (cp : Classpath) (args : List String) (i : Nat) (token : String)
    (plugins : List Plugin) : ∃ claim plugins', Settles cp args i token plugins claim plugins' := by
  induction plugins with
  | nil => exact ⟨_, _, .unclaimed (by simp)⟩
  | cons p plugins ih =>
    have hnone : ∀ q ∈ ([] : List Plugin), q.Passes cp args i token := by simp
    rcases p.passes_or_accepts_or_refuses cp args i token with hp | ⟨n, hp⟩ | ⟨cause, hp⟩
    · obtain ⟨claim, plugins', h⟩ := ih
      obtain ⟨claim', h'⟩ := h.exists_cons hp
      exact ⟨claim', _, h'⟩
    · exact ⟨_, _, .claimed hnone hp⟩
    · exact ⟨_, _, .refused hnone hp⟩

end Claim

/-! ### From position to position -/

namespace Pipeline

/-- A position at which tokens were claimed, the number of the plugin that claimed them, and how
many there were. -/
structure Visit where
  /-- The position. -/
  position : Nat
  /-- The position of the plugin in the order of registration. -/
  plugin : Nat
  /-- How many tokens it claimed. -/
  count : Nat
deriving DecidableEq, Repr

/-- From position `i` on tokens are claimed at the positions that are listed.  Then a position is
reached where there is no more token, or where nobody claims the token, or where a plugin refuses
its configuration; the result is told from that. -/
inductive Trace (cp : Classpath) (args : List String) : Nat → List Plugin → List Visit → Nat →
    Except ArgumentError Unit → List Plugin → Prop
  | done {i : Nat} {plugins : List Plugin} : args.length ≤ i →
      Trace cp args i plugins [] i (.ok ()) plugins
  | unrecognized {i : Nat} {token : String} {plugins plugins' : List Plugin} :
      args[i]? = some token → Claim.Settles cp args i token plugins .unclaimed plugins' →
      Trace cp args i plugins [] i (.error (.unrecognized token)) plugins'
  | refused {i : Nat} {token : String} {cause : ConfigurationError}
      {plugins plugins' : List Plugin} :
      args[i]? = some token → Claim.Settles cp args i token plugins (.refused cause) plugins' →
      Trace cp args i plugins [] i (.error (.configuration cause)) plugins'
  | claimed {i k n stop : Nat} {token : String} {plugins plugins' plugins'' : List Plugin}
      {visits : List Visit} {result : Except ArgumentError Unit} :
      args[i]? = some token → Claim.Settles cp args i token plugins (.claimed k n) plugins' →
      Trace cp args (i + n) plugins' visits stop result plugins'' →
      Trace cp args i plugins (⟨i, k, n⟩ :: visits) stop result plugins''

/-- The positions of a trace: those where tokens were claimed, and the one where it stops. -/
def positions (visits : List Visit) (stop : Nat) : List Nat :=
  visits.map (·.position) ++ [stop]

/-- Those who claim and were not active before, each of them once, in the order of their first
claims. -/
structure TurnedOn (active claimants news : List Nat) : Prop where
  mem_iff : ∀ k, k ∈ news ↔ k ∈ claimants ∧ k ∉ active
  ordered : news.Pairwise fun k l => claimants.idxOf k < claimants.idxOf l

variable {cp : Classpath} {args : List String} {i stop : Nat} {plugins plugins' : List Plugin}
  {visits : List Visit} {result : Except ArgumentError Unit}

/-! ### The trace -/

/-- Every claim takes at least one token, so there is a last position. -/
lemma exists_trace (cp : Classpath) (args : List String) (i : Nat) (plugins : List Plugin) :
    ∃ visits stop result plugins', Trace cp args i plugins visits stop result plugins' := by
  induction hleft : args.length - i using Nat.strong_induction_on generalizing i plugins with
  | _ left ih =>
    by_cases hi : i < args.length
    · have htoken : args[i]? = some args[i] := List.getElem?_eq_getElem hi
      obtain ⟨claim, plugins', hsettles⟩ := Claim.exists_settles cp args i args[i] plugins
      cases claim with
      | unclaimed => exact ⟨_, _, _, _, .unrecognized htoken hsettles⟩
      | refused cause => exact ⟨_, _, _, _, .refused htoken hsettles⟩
      | claimed k n =>
        have hpos := hsettles.pos
        obtain ⟨visits, stop, result, plugins'', h⟩ :=
          ih (args.length - (i + n)) (by omega) (i + n) plugins' rfl
        exact ⟨_, _, _, _, .claimed htoken hsettles h⟩
    · exact ⟨_, _, _, _, .done (by omega)⟩

lemma Trace.le_of_mem_positions (h : Trace cp args i plugins visits stop result plugins') :
    ∀ j ∈ positions visits stop, i ≤ j := by
  induction h with
  | done => simp [positions]
  | unrecognized => simp [positions]
  | refused => simp [positions]
  | claimed _ _ _ ih =>
    intro j hj
    rcases List.mem_cons.1 hj with rfl | hj
    · exact le_refl _
    · exact (Nat.le_add_right _ _).trans (ih j hj)

/-- The positions of a trace start with the first one and increase. -/
lemma Trace.positions_increase (h : Trace cp args i plugins visits stop result plugins') :
    (positions visits stop).head? = some i ∧ (positions visits stop).Pairwise (· < ·) := by
  induction h with
  | done => simp [positions]
  | unrecognized => simp [positions]
  | refused => simp [positions]
  | @claimed i k n _ _ _ _ _ _ _ _ hsettles h ih =>
    refine ⟨rfl, List.pairwise_cons.2 ⟨fun j hj => ?_, ih.2⟩⟩
    calc i < i + n := Nat.lt_add_of_pos_right hsettles.pos
      _ ≤ j := h.le_of_mem_positions j hj

/-- The result is good exactly when the trace comes to the end of the tokens. -/
lemma Trace.result_eq_ok_iff (h : Trace cp args i plugins visits stop result plugins') :
    result = .ok () ↔ args.length ≤ stop := by
  induction h with
  | done hend => simp [hend]
  | unrecognized htoken =>
    obtain ⟨hlt, -⟩ := List.getElem?_eq_some_iff.1 htoken
    simp [hlt]
  | refused htoken =>
    obtain ⟨hlt, -⟩ := List.getElem?_eq_some_iff.1 htoken
    simp [hlt]
  | claimed _ _ _ ih => exact ih

/-! ### What is turned on -/

/-- The active plugins after one more claim. -/
def turnOn (active : List Nat) (k : Nat) : List Nat :=
  if active.contains k then active else active ++ [k]

lemma activate_eq (p : Pipeline) (k : Nat) :
    p.activate k = { p with active := turnOn p.active k } := by
  rw [activate, turnOn]
  split <;> rfl

lemma TurnedOn.cons_of_mem {active claimants news : List Nat} {k : Nat} (hk : k ∈ active)
    (h : TurnedOn active claimants news) : TurnedOn active (k :: claimants) news := by
  have hne : ∀ l ∈ news, k ≠ l := by
    rintro l hl rfl
    exact ((h.mem_iff k).1 hl).2 hk
  refine ⟨fun l => ?_, h.ordered.imp_of_mem fun {a b} ha hb hlt => ?_⟩
  · rw [h.mem_iff, List.mem_cons]
    refine and_congr_left fun hl => ⟨Or.inr, fun hmem => ?_⟩
    rcases hmem with rfl | hmem
    · exact absurd hk hl
    · exact hmem
  · rw [List.idxOf_cons_ne _ (hne a ha), List.idxOf_cons_ne _ (hne b hb)]
    exact Nat.succ_lt_succ hlt

lemma TurnedOn.cons_of_not_mem {active claimants news : List Nat} {k : Nat} (hk : k ∉ active)
    (h : TurnedOn (active ++ [k]) claimants news) :
    TurnedOn active (k :: claimants) (k :: news) := by
  have hmem : ∀ l, l ∈ news ↔ l ∈ claimants ∧ l ∉ active ∧ l ≠ k := by
    intro l
    rw [h.mem_iff, List.mem_append, List.mem_singleton, not_or]
  have hne : ∀ l ∈ news, k ≠ l := fun l hl => ((hmem l).1 hl).2.2.symm
  refine ⟨fun l => ?_, List.pairwise_cons.2 ⟨fun l hl => ?_, ?_⟩⟩
  · rw [List.mem_cons, List.mem_cons, hmem]
    by_cases hl : l = k
    · simp [hl, hk]
    · simp [hl]
  · rw [List.idxOf_cons_self, List.idxOf_cons_ne _ (hne l hl)]
    exact Nat.succ_pos _
  · refine h.ordered.imp_of_mem fun {a b} ha hb hlt => ?_
    rw [List.idxOf_cons_ne _ (hne a ha), List.idxOf_cons_ne _ (hne b hb)]
    exact Nat.succ_lt_succ hlt

lemma exists_turnedOn (active claimants : List Nat) :
    ∃ news, claimants.foldl turnOn active = active ++ news ∧ TurnedOn active claimants news := by
  induction claimants generalizing active with
  | nil => exact ⟨[], by simp, by simp, List.Pairwise.nil⟩
  | cons k claimants ih =>
    rw [List.foldl_cons]
    by_cases hk : k ∈ active
    · have hturn : turnOn active k = active := by simp [turnOn, hk]
      obtain ⟨news, hnews, hturned⟩ := ih active
      rw [hturn]
      exact ⟨news, hnews, hturned.cons_of_mem hk⟩
    · have hturn : turnOn active k = active ++ [k] := by simp [turnOn, hk]
      obtain ⟨news, hnews, hturned⟩ := ih (active ++ [k])
      rw [hturn, hnews]
      exact ⟨k :: news, by simp, hturned.cons_of_not_mem hk⟩

lemma TurnedOn.unique {active claimants news news' : List Nat} (h : TurnedOn active claimants news)
    (h' : TurnedOn active claimants news') : news = news' := by
  have hirrefl : Std.Irrefl fun k l : Nat => claimants.idxOf k < claimants.idxOf l :=
    ⟨fun k => Nat.lt_irrefl _⟩
  have hantisymm : Std.Antisymm fun k l : Nat => claimants.idxOf k < claimants.idxOf l :=
    ⟨fun k l hkl hlk => absurd hkl (Nat.lt_asymm hlk)⟩
  exact h.ordered.eq_of_mem_iff h'.ordered fun k => by rw [h.mem_iff, h'.mem_iff]

/-! ### Parsing -/

variable {token : String}

lemma parseArgument_of_unclaimed (htoken : args[i]? = some token)
    (h : Claim.Settles cp args i token plugins .unclaimed plugins') (active : List Nat) :
    parseArgument ⟨cp, plugins, active⟩ args i = (.ok 0, ⟨cp, plugins', active⟩) := by
  simp only [parseArgument, htoken, Claim.among_of_settles h]

lemma parseArgument_of_refused {cause : ConfigurationError} (htoken : args[i]? = some token)
    (h : Claim.Settles cp args i token plugins (.refused cause) plugins') (active : List Nat) :
    parseArgument ⟨cp, plugins, active⟩ args i =
      (.error (.configuration cause), ⟨cp, plugins', active⟩) := by
  simp only [parseArgument, htoken, Claim.among_of_settles h]

lemma parseArgument_of_claimed {k n : Nat} (htoken : args[i]? = some token)
    (h : Claim.Settles cp args i token plugins (.claimed k n) plugins') (active : List Nat) :
    parseArgument ⟨cp, plugins, active⟩ args i = (.ok n, ⟨cp, plugins', turnOn active k⟩) := by
  simp only [parseArgument, htoken, Claim.among_of_settles h, activate_eq]

lemma parseFrom_of_trace (h : Trace cp args i plugins visits stop result plugins')
    (active : List Nat) :
    parseFrom ⟨cp, plugins, active⟩ args i =
      (result, ⟨cp, plugins', (visits.map (·.plugin)).foldl turnOn active⟩) := by
  induction h generalizing active with
  | done hend =>
    rw [parseFrom, dif_neg (by omega)]
    rfl
  | unrecognized htoken hsettles =>
    obtain ⟨hlt, rfl⟩ := List.getElem?_eq_some_iff.1 htoken
    rw [parseFrom, dif_pos hlt, parseArgument_of_unclaimed htoken hsettles]
    rfl
  | refused htoken hsettles =>
    obtain ⟨hlt, -⟩ := List.getElem?_eq_some_iff.1 htoken
    rw [parseFrom, dif_pos hlt, parseArgument_of_refused htoken hsettles]
    rfl
  | @claimed i k n _ _ _ _ _ _ _ htoken hsettles _ ih =>
    obtain ⟨hlt, -⟩ := List.getElem?_eq_some_iff.1 htoken
    obtain ⟨m, rfl⟩ := Nat.exists_eq_add_one.2 hsettles.pos
    rw [parseFrom, dif_pos hlt, parseArgument_of_claimed htoken hsettles]
    exact ih (turnOn active k)

/-- **Parsing follows the trace of the tokens.**  Its result and the plugins after it are those
of the trace, and the plugins that claimed tokens are turned on behind those that were on before.
The positions of the trace start with the first one and increase; the result is good exactly when
they come to the end of the tokens. -/
theorem parseArguments_iff_trace (p : Pipeline) (args : List String) :
    (∀ result p', p.parseArguments args = (result, p') ↔
      ∃ visits stop plugins news, Trace p.classpath args 0 p.plugins visits stop result plugins ∧
        TurnedOn p.active (visits.map (·.plugin)) news ∧
        p' = ⟨p.classpath, plugins, p.active ++ news⟩) ∧
    ∀ visits stop result plugins, Trace p.classpath args 0 p.plugins visits stop result plugins →
      (positions visits stop).head? = some 0 ∧ (positions visits stop).Pairwise (· < ·) ∧
        (result = .ok () ↔ args.length ≤ stop) := by
  have hparse : ∀ {visits stop result plugins},
      Trace p.classpath args 0 p.plugins visits stop result plugins →
      ∃ news, TurnedOn p.active (visits.map (·.plugin)) news ∧
        p.parseArguments args = (result, ⟨p.classpath, plugins, p.active ++ news⟩) := by
    intro visits stop result plugins h
    obtain ⟨news, hnews, hturned⟩ := exists_turnedOn p.active (visits.map (·.plugin))
    refine ⟨news, hturned, ?_⟩
    rw [← hnews]
    exact parseFrom_of_trace h p.active
  refine ⟨fun result p' => ⟨fun h => ?_, ?_⟩, fun visits stop result plugins h => ?_⟩
  · obtain ⟨visits, stop, result', plugins, htrace⟩ := exists_trace p.classpath args 0 p.plugins
    obtain ⟨news, hturned, hresult⟩ := hparse htrace
    rw [hresult, Prod.mk.injEq] at h
    obtain ⟨rfl, rfl⟩ := h
    exact ⟨visits, stop, plugins, news, htrace, hturned, rfl⟩
  · rintro ⟨visits, stop, plugins, news, htrace, hturned, rfl⟩
    obtain ⟨news', hturned', hresult⟩ := hparse htrace
    rw [hresult, hturned.unique hturned']
  · exact ⟨h.positions_increase.1, h.positions_increase.2, h.result_eq_ok_iff⟩

end Pipeline

end ClassGen
