/-
# Pipelines between their calls

Before it runs, a pipeline is set up by calls in any order: plugins are registered, and tokens are
parsed one position or one command line at a time.  Calls may fail, and they keep what they have
done until then.

What parsing can do to a pipeline is said once, by `Pipeline.Advances`: its plugins go on to other
states and some of them, inactive so far, become active behind those that are.  Together with what a
registration does, this gives what every pipeline satisfies that calls lead to
(`Pipeline.sound_performAll`).
-/
import Mathlib.Data.List.Forall2
import ClassGen.Proofs.Pipeline.Dispatch

namespace ClassGen

/-! ### Plugins in a later state -/

namespace Plugin

/-- The second plugin is the first one, in the same or in another state. -/
def Becomes (a b : Plugin) : Prop := ∃ state, b = { a with state := state }

lemma Becomes.refl (a : Plugin) : a.Becomes a := ⟨a.state, rfl⟩

lemma Becomes.trans {a b c : Plugin} (hab : a.Becomes b) (hbc : b.Becomes c) : a.Becomes c := by
  obtain ⟨s, rfl⟩ := hab
  obtain ⟨t, rfl⟩ := hbc
  exact ⟨t, rfl⟩

lemma becomes_asked (cp : Classpath) (args : List String) (i : Nat) (a : Plugin) :
    a.Becomes (a.asked cp args i) := ⟨_, rfl⟩

/-- The plugins of the second list are those of the first one, in order. -/
def AllBecome : List Plugin → List Plugin → Prop := List.Forall₂ Becomes

lemma AllBecome.refl (plugins : List Plugin) : AllBecome plugins plugins :=
  List.forall₂_same.2 fun a _ => .refl a

lemma AllBecome.trans {as bs cs : List Plugin} (hab : AllBecome as bs) (hbc : AllBecome bs cs) :
    AllBecome as cs := by
  induction hab generalizing cs with
  | nil => exact hbc
  | cons hfirst _ ih =>
    cases hbc with
    | cons hfirst' hrest' => exact .cons (hfirst.trans hfirst') (ih hrest')

lemma allBecome_asked (cp : Classpath) (args : List String) (i : Nat) (plugins : List Plugin) :
    AllBecome plugins (plugins.map (·.asked cp args i)) := by
  rw [AllBecome, List.forall₂_map_right_iff, List.forall₂_same]
  exact fun a _ => becomes_asked cp args i a

end Plugin

/-! ### One position -/

namespace Claim.Settles

variable {cp : Classpath} {args : List String} {i : Nat} {token : String}
  {plugins plugins' : List Plugin} {claim : Claim}

/-- However a position is settled, the plugins stay those that they were. -/
lemma allBecome (h : Settles cp args i token plugins claim plugins') :
    Plugin.AllBecome plugins plugins' := by
  have hsplit : ∀ (before : List Plugin) (p : Plugin) (after : List Plugin),
      Plugin.AllBecome (before ++ p :: after)
        (before.map (·.asked cp args i) ++ p.asked cp args i :: after) := by
    intro before p after
    have hafter : Plugin.AllBecome (p :: after) (p.asked cp args i :: after) :=
      .cons (Plugin.becomes_asked cp args i p) (Plugin.AllBecome.refl after)
    exact List.rel_append (Plugin.allBecome_asked cp args i before) hafter
  cases h with
  | claimed => exact hsplit _ _ _
  | refused => exact hsplit _ _ _
  | unclaimed => exact Plugin.allBecome_asked cp args i plugins

lemma lt_length {k n : Nat} (h : Settles cp args i token plugins (.claimed k n) plugins') :
    k < plugins.length := by
  cases h with
  | claimed =>
    rw [List.length_append, List.length_cons]
    omega

end Claim.Settles

namespace Pipeline

/-! ### What parsing can do -/

/-- The second pipeline is the first one after tokens were parsed: the classpath is the same, the
plugins are the same in other states, and `news` have become active behind those that were. -/
structure Advances (p p' : Pipeline) (news : List Nat) : Prop where
  classpath : p'.classpath = p.classpath
  plugins : Plugin.AllBecome p.plugins p'.plugins
  active : p'.active = p.active ++ news
  lt_length : ∀ k ∈ news, k < p.plugins.length
  nodup : p.active.Nodup → (p.active ++ news).Nodup

variable {p p' p'' : Pipeline} {news news' : List Nat}

lemma Advances.refl (p : Pipeline) : p.Advances p [] where
  classpath := rfl
  plugins := .refl p.plugins
  active := (List.append_nil p.active).symm
  lt_length := by simp
  nodup := by simp

lemma Advances.trans (h : p.Advances p' news) (h' : p'.Advances p'' news') :
    p.Advances p'' (news ++ news') where
  classpath := h'.classpath.trans h.classpath
  plugins := h.plugins.trans h'.plugins
  active := by rw [h'.active, h.active, List.append_assoc]
  lt_length := by
    intro k hk
    rcases List.mem_append.1 hk with hk | hk
    · exact h.lt_length k hk
    · rw [h.plugins.length_eq]
      exact h'.lt_length k hk
  nodup := by
    intro hnodup
    have hnodup' : p'.active.Nodup := h.active ▸ h.nodup hnodup
    rw [← List.append_assoc, ← h.active]
    exact h'.nodup hnodup'

/-- Turning on a plugin puts it behind the active ones, unless it is one of them. -/
lemma exists_advances_activate (cp : Classpath) {plugins plugins' : List Plugin}
    (active : List Nat) (hplugins : Plugin.AllBecome plugins plugins') {k : Nat}
    (hk : k < plugins.length) :
    ∃ news, Advances ⟨cp, plugins, active⟩ ⟨cp, plugins', turnOn active k⟩ news := by
  by_cases hmem : k ∈ active
  · have hactive : turnOn active k = active := by simp [turnOn, hmem]
    rw [hactive]
    exact ⟨[], rfl, hplugins, by simp, by simp, by simp⟩
  · have hactive : turnOn active k = active ++ [k] := by simp [turnOn, hmem]
    rw [hactive]
    refine ⟨[k], rfl, hplugins, rfl, by simpa using hk, fun hnodup => ?_⟩
    exact List.concat_eq_append ▸ List.Nodup.concat hmem hnodup

lemma exists_advances_parseArgument (p : Pipeline) (args : List String) (i : Nat) :
    ∃ news, p.Advances (p.parseArgument args i).2 news := by
  obtain ⟨cp, plugins, active⟩ := p
  rcases htoken : args[i]? with _ | token
  · rw [parseArgument, htoken]
    exact ⟨[], .refl _⟩
  · obtain ⟨claim, plugins', hsettles⟩ := Claim.exists_settles cp args i token plugins
    have hkept : Advances ⟨cp, plugins, active⟩ ⟨cp, plugins', active⟩ [] :=
      ⟨rfl, hsettles.allBecome, by simp, by simp, by simp⟩
    cases claim with
    | unclaimed =>
      rw [parseArgument_of_unclaimed htoken hsettles]
      exact ⟨[], hkept⟩
    | refused cause =>
      rw [parseArgument_of_refused htoken hsettles]
      exact ⟨[], hkept⟩
    | claimed k n =>
      rw [parseArgument_of_claimed htoken hsettles]
      exact exists_advances_activate cp active hsettles.allBecome hsettles.lt_length

/-- Parsing a command line is parsing at one position after the other, up to the first failure. -/
lemma exists_advances_parseFrom (p : Pipeline) (args : List String) (i : Nat) :
    ∃ news, p.Advances (p.parseFrom args i).2 news := by
  induction hleft : args.length - i using Nat.strong_induction_on generalizing p i with
  | _ left ih =>
    rw [parseFrom]
    by_cases hi : i < args.length
    · rw [dif_pos hi]
      obtain ⟨news, hadvances⟩ := exists_advances_parseArgument p args i
      rcases hargument : p.parseArgument args i with ⟨e | n, p'⟩
      · rw [hargument] at hadvances
        exact ⟨news, hadvances⟩
      · rw [hargument] at hadvances
        cases n with
        | zero => exact ⟨news, hadvances⟩
        | succ n =>
          obtain ⟨news', hrest⟩ := ih (args.length - (i + (n + 1))) (by omega) p' _ rfl
          exact ⟨news ++ news', hadvances.trans hrest⟩
    · rw [dif_neg hi]
      exact ⟨[], .refl p⟩

/-! ### Calls -/

/-- A call that a pipeline gets before it runs. -/
inductive Call where
  /-- Register a plugin. -/
  | register (plugin : Plugin)
  /-- Have the tokens at one position claimed. -/
  | argument (args : List String) (i : Nat)
  /-- Have all tokens of a command line claimed. -/
  | arguments (args : List String)

/-- The plugins that the call registers. -/
def Call.registers : Call → List Plugin
  | register plugin => [plugin]
  | argument _ _ => []
  | arguments _ => []

/-- The pipeline after the call, also after one that fails. -/
def perform (p : Pipeline) : Call → Pipeline
  | .register plugin => p.register plugin
  | .argument args i => (p.parseArgument args i).2
  | .arguments args => (p.parseArguments args).2

/-- The pipeline after the calls, from left to right. -/
def performAll (p : Pipeline) (calls : List Call) : Pipeline :=
  calls.foldl perform p

/-- What a pipeline satisfies that started with the classpath `cp` and got these plugins. -/
structure Sound (cp : Classpath) (registered : List Plugin) (p : Pipeline) : Prop where
  plugins : Plugin.AllBecome registered p.plugins
  active_lt : ∀ k ∈ p.active, k < p.plugins.length
  active_nodup : p.active.Nodup
  classpath : p.classpath = cp.registerAll (registered.flatMap (·.types))

variable {cp : Classpath} {registered : List Plugin}

lemma sound_ofClasspath (cp : Classpath) : (ofClasspath cp).Sound cp [] where
  plugins := .nil
  active_lt := by simp [ofClasspath]
  active_nodup := List.nodup_nil
  classpath := rfl

lemma Sound.of_advances (h : p.Sound cp registered) (hadvances : p.Advances p' news) :
    p'.Sound cp registered where
  plugins := h.plugins.trans hadvances.plugins
  active_lt := by
    intro k hk
    rw [← hadvances.plugins.length_eq]
    rw [hadvances.active] at hk
    rcases List.mem_append.1 hk with hk | hk
    · exact h.active_lt k hk
    · exact hadvances.lt_length k hk
  active_nodup := by
    rw [hadvances.active]
    exact hadvances.nodup h.active_nodup
  classpath := by rw [hadvances.classpath, h.classpath]

lemma Sound.register (h : p.Sound cp registered) (plugin : Plugin) :
    (p.register plugin).Sound cp (registered ++ [plugin]) where
  plugins := List.rel_append h.plugins (Plugin.AllBecome.refl [plugin])
  active_lt := by
    intro k hk
    have hlt := h.active_lt k hk
    have hlength : (p.register plugin).plugins.length = p.plugins.length + 1 := by
      rw [Pipeline.register, List.length_append, List.length_singleton]
    omega
  active_nodup := h.active_nodup
  classpath := by
    rw [Pipeline.register, h.classpath, List.flatMap_append, List.flatMap_singleton]
    exact List.foldl_append.symm

/-- One call keeps a pipeline sound. -/
lemma Sound.perform (h : p.Sound cp registered) (call : Call) :
    (p.perform call).Sound cp (registered ++ call.registers) := by
  cases call with
  | register plugin => exact h.register plugin
  | argument args i =>
    obtain ⟨news, hadvances⟩ := exists_advances_parseArgument p args i
    rw [Call.registers, List.append_nil]
    exact h.of_advances hadvances
  | arguments args =>
    obtain ⟨news, hadvances⟩ := exists_advances_parseFrom p args 0
    rw [Call.registers, List.append_nil]
    exact h.of_advances hadvances

lemma Sound.performAll (h : p.Sound cp registered) (calls : List Call) :
    (p.performAll calls).Sound cp (registered ++ calls.flatMap (·.registers)) := by
  induction calls generalizing p registered with
  | nil => simpa [Pipeline.performAll] using h
  | cons call calls ih =>
    have hrest := ih (h.perform call)
    rw [List.append_assoc, ← List.flatMap_cons] at hrest
    exact hrest

/-- One call keeps the active plugins, in order, and puts new ones behind them. -/
lemma active_prefix_perform (p : Pipeline) (call : Call) : p.active <+: (p.perform call).active := by
  cases call with
  | register plugin => exact List.prefix_refl _
  | argument args i =>
    obtain ⟨news, hadvances⟩ := exists_advances_parseArgument p args i
    exact ⟨news, hadvances.active.symm⟩
  | arguments args =>
    obtain ⟨news, hadvances⟩ := exists_advances_parseFrom p args 0
    exact ⟨news, hadvances.active.symm⟩

/-- **Whatever calls a pipeline gets, it stays sound.**  Every active position is that of a
registered plugin and no position is active twice; the plugins are the registered ones in the order
of their registration; the classpath is the one at the start with their types registered in that
order, however many tokens were parsed in between.  And each further call leaves the active
positions as they are and may only put new ones behind them. -/
theorem sound_performAll (cp : Classpath) (calls : List Call) :
    ((ofClasspath cp).performAll calls).Sound cp (calls.flatMap (·.registers)) ∧
    ∀ call, ((ofClasspath cp).performAll calls).active <+:
      ((ofClasspath cp).performAll (calls ++ [call])).active := by
  refine ⟨(sound_ofClasspath cp).performAll calls, fun call => ?_⟩
  have hlast : (ofClasspath cp).performAll (calls ++ [call]) =
      ((ofClasspath cp).performAll calls).perform call := List.foldl_concat ..
  rw [hlast]
  exact active_prefix_perform _ call

end Pipeline

end ClassGen
