/-
# The turns of a run

In a run the active plugins take their turns: each sees the code model that the one before it left,
and the first one that does not succeed ends the run.  `Pipeline.Runs` says which turns make up a
run, what the run gives and which model it leaves, without saying how that is computed.

Positions are active once, so in a pipeline that calls lead to no plugin has two turns; and who has
no turn plays no part, be it because it is not active or because an earlier plugin failed
(`Pipeline.run_iff_turns`).
-/
import ClassGen.Proofs.Pipeline.Calls

namespace ClassGen

/-- A plugin's turn in a run. -/
structure Turn where
  /-- The position of the plugin in the order of registration. -/
  position : Nat
  /-- The model that the plugin sees. -/
  before : CodeModel
  /-- Does the plugin succeed? -/
  succeeds : Bool
  /-- The model that the plugin leaves. -/
  after : CodeModel

namespace Turn

/-- The turn is one of the plugin at its position: this is what the plugin does to the model. -/
def IsOf (cp : Classpath) (plugins : List Plugin) (t : Turn) : Prop :=
  ∃ plugin, plugins[t.position]? = some plugin ∧
    (plugin.apply cp t.before).1 = t.succeeds ∧ (plugin.apply cp t.before).2.1 = t.after

/-- The turns follow one another: the first one sees `m`, each further one what the one before it
left, and the last one leaves `m'`. -/
inductive Follow : CodeModel → List Turn → CodeModel → Prop
  | nil {m : CodeModel} : Follow m [] m
  | cons {m m' : CodeModel} {t : Turn} {ts : List Turn} :
      t.before = m → Follow t.after ts m' → Follow m (t :: ts) m'

lemma follow_concat {m m' : CodeModel} {turns : List Turn} {last : Turn}
    (h : Follow m (turns ++ [last]) m') : Follow m turns last.before ∧ last.after = m' := by
  induction turns generalizing m with
  | nil =>
    cases h with
    | cons hbefore hrest =>
      cases hrest with
      | nil => exact ⟨hbefore ▸ .nil, rfl⟩
  | cons t turns ih =>
    cases h with
    | cons hbefore hrest =>
      obtain ⟨hfollow, hafter⟩ := ih hrest
      exact ⟨.cons hbefore hfollow, hafter⟩

end Turn

namespace Pipeline

/-- What a run with these turns gives. -/
inductive Ends (p : Pipeline) : List Turn → Except PipelineError Unit → Prop
  /-- All active plugins have had their turns and succeeded. -/
  | completed {turns : List Turn} : turns.map (·.position) = p.active →
      (∀ t ∈ turns, t.succeeds = true) → Ends p turns (.ok ())
  /-- The plugin of the last turn is the first one that did not succeed; the error has the option
  that it shows after its turn. -/
  | failed {earlier : List Turn} {last : Turn} {plugin : Plugin} :
      (∀ t ∈ earlier, t.succeeds = true) → last.succeeds = false →
      p.plugins[last.position]? = some plugin →
      Ends p (earlier ++ [last])
        (.error (.pluginFailed (plugin.apply p.classpath last.before).2.2.option))

/-- A run on the model `m` has these turns, gives `result` and leaves the model `m'`.  The turns are
those of active plugins, in the order in which these became active and without a gap. -/
structure Runs (p : Pipeline) (m : CodeModel) (turns : List Turn)
    (result : Except PipelineError Unit) (m' : CodeModel) : Prop where
  taken : ∀ t ∈ turns, t.IsOf p.classpath p.plugins
  follow : Turn.Follow m turns m'
  order : turns.map (·.position) <+: p.active
  ends : p.Ends turns result

variable {p q : Pipeline} {cp : Classpath} {plugins : List Plugin} {active : List Nat}
  {m m' : CodeModel} {turns : List Turn} {result : Except PipelineError Unit} {k : Nat}
  {plugin : Plugin}

/-! ### From the turns to the run -/

lemma activePlugins_cons (h : plugins[k]? = some plugin) :
    activePlugins ⟨cp, plugins, k :: active⟩ = plugin :: activePlugins ⟨cp, plugins, active⟩ :=
  List.filterMap_cons_some h

lemma run_cons_of_succeeds (hplugin : plugins[k]? = some plugin)
    (hsucceeds : (plugin.apply cp m).1 = true) (active : List Nat) :
    run ⟨cp, plugins, k :: active⟩ m = run ⟨cp, plugins, active⟩ (plugin.apply cp m).2.1 := by
  have happly : plugin.apply cp m = (true, (plugin.apply cp m).2) := Prod.ext hsucceeds rfl
  rw [run, activePlugins_cons hplugin, runPlugins, happly]
  rfl

lemma run_cons_of_fails (hplugin : plugins[k]? = some plugin)
    (hfails : (plugin.apply cp m).1 = false) (active : List Nat) :
    run ⟨cp, plugins, k :: active⟩ m =
      (.error (.pluginFailed (plugin.apply cp m).2.2.option), (plugin.apply cp m).2.1) := by
  have happly : plugin.apply cp m = (false, (plugin.apply cp m).2) := Prod.ext hfails rfl
  rw [run, activePlugins_cons hplugin, runPlugins, happly]

/-- After turns of plugins that succeed the run goes on with the model that they left. -/
lemma run_append_of_follow (htaken : ∀ t ∈ turns, t.IsOf cp plugins)
    (hfollow : Turn.Follow m turns m') (hsucceed : ∀ t ∈ turns, t.succeeds = true)
    (rest : List Nat) :
    run ⟨cp, plugins, turns.map (·.position) ++ rest⟩ m = run ⟨cp, plugins, rest⟩ m' := by
  induction hfollow with
  | nil => rfl
  | @cons m m' t ts hbefore _ ih =>
    subst hbefore
    obtain ⟨⟨plugin, hplugin, hfirst, hafter⟩, htaken⟩ := List.forall_mem_cons.1 htaken
    obtain ⟨hsucceeds, hsucceed⟩ := List.forall_mem_cons.1 hsucceed
    have hstep := run_cons_of_succeeds hplugin (hfirst.trans hsucceeds)
      (ts.map (·.position) ++ rest)
    rw [List.map_cons, List.cons_append, hstep, hafter]
    exact ih htaken hsucceed

lemma run_of_runs (h : p.Runs m turns result m') : p.run m = (result, m') := by
  obtain ⟨cp, plugins, active⟩ := p
  obtain ⟨htaken, hfollow, horder, hends⟩ := h
  cases hends with
  | completed hall hsucceed =>
    have hrun := run_append_of_follow htaken hfollow hsucceed []
    rw [List.append_nil, hall] at hrun
    rw [hrun]
    rfl
  | @failed earlier last plugin hsucceed hfails hplugin =>
    obtain ⟨rest, hactive⟩ := horder
    obtain ⟨hearlier, hafter⟩ := Turn.follow_concat hfollow
    obtain ⟨htaken, hlast⟩ := List.forall_mem_append.1 htaken
    obtain ⟨plugin', hplugin', hfirst, hleft⟩ := hlast last List.mem_cons_self
    obtain rfl : plugin = plugin' := Option.some_injective _ (hplugin.symm.trans hplugin')
    have hsplit : active = earlier.map (·.position) ++ last.position :: rest := by
      simpa using hactive.symm
    have hrun := run_append_of_follow htaken hearlier hsucceed (last.position :: rest)
    have hstep := run_cons_of_fails hplugin (hfirst.trans hfails) rest
    rw [hsplit, hrun, hstep, hleft, hafter]

/-! ### From the run to the turns -/

lemma Ends.cons {t : Turn} (hsucceeds : t.succeeds = true)
    (h : Ends ⟨cp, plugins, active⟩ turns result) :
    Ends ⟨cp, plugins, t.position :: active⟩ (t :: turns) result := by
  cases h with
  | completed hall hsucceed =>
    refine .completed ?_ (List.forall_mem_cons.2 ⟨hsucceeds, hsucceed⟩)
    rw [List.map_cons, hall]
  | failed hsucceed hfails hplugin =>
    exact .failed (List.forall_mem_cons.2 ⟨hsucceeds, hsucceed⟩) hfails hplugin

lemma exists_runs (cp : Classpath) (hactive : ∀ k ∈ active, k < plugins.length) (m : CodeModel) :
    ∃ turns result m', Runs ⟨cp, plugins, active⟩ m turns result m' := by
  induction active generalizing m with
  | nil =>
    have hnone : ∀ t ∈ ([] : List Turn), t.IsOf cp plugins := by simp
    exact ⟨[], .ok (), m, hnone, .nil, List.prefix_refl _, .completed rfl (by simp)⟩
  | cons k active ih =>
    obtain ⟨hk, hrest⟩ := List.forall_mem_cons.1 hactive
    have hplugin : plugins[k]? = some plugins[k] := List.getElem?_eq_getElem hk
    obtain ⟨t, hposition, hbefore, ht⟩ : ∃ t : Turn, t.position = k ∧ t.before = m ∧
        t.IsOf cp plugins :=
      ⟨⟨k, m, (plugins[k].apply cp m).1, (plugins[k].apply cp m).2.1⟩, rfl, rfl, plugins[k],
        hplugin, rfl, rfl⟩
    subst hposition
    rcases hsucceeds : t.succeeds with _ | _
    · -- the plugin fails, and its turn is the last one
      have hends : Ends ⟨cp, plugins, t.position :: active⟩ ([] ++ [t]) _ :=
        .failed (by simp) hsucceeds hplugin
      have horder : ([t].map (·.position)) <+: t.position :: active := ⟨active, rfl⟩
      exact ⟨[t], _, t.after, by simpa using ht, .cons hbefore .nil, horder, hends⟩
    · obtain ⟨turns, result, m', htaken, hfollow, horder, hends⟩ := ih hrest t.after
      have horder : ((t :: turns).map (·.position)) <+: t.position :: active :=
        (List.prefix_cons_inj t.position).2 horder
      exact ⟨t :: turns, result, m', List.forall_mem_cons.2 ⟨ht, htaken⟩,
        .cons hbefore hfollow, horder, hends.cons hsucceeds⟩

/-- Plugins that have no turn may be replaced by any others. -/
lemma Runs.congr (h : p.Runs m turns result m') (hclasspath : q.classpath = p.classpath)
    (hactive : q.active = p.active)
    (hplugins : ∀ t ∈ turns, q.plugins[t.position]? = p.plugins[t.position]?) :
    q.Runs m turns result m' where
  taken := by
    intro t ht
    obtain ⟨plugin, hplugin, hturn⟩ := h.taken t ht
    rw [hclasspath]
    exact ⟨plugin, (hplugins t ht).trans hplugin, hturn⟩
  follow := h.follow
  order := by
    rw [hactive]
    exact h.order
  ends := by
    cases h.ends with
    | completed hall hsucceed => exact .completed (hall.trans hactive.symm) hsucceed
    | @failed earlier last plugin hsucceed hfails hplugin =>
      have hlast : q.plugins[last.position]? = some plugin := by
        rw [hplugins last (List.mem_append_right _ List.mem_cons_self), hplugin]
      rw [← hclasspath]
      exact .failed hsucceed hfails hlast

/-- **A run is made up of the turns of active plugins, in the order in which they became active, up
to the first one that fails.**  Whatever calls the pipeline got and whatever its plugins do, the run
gives a result and leaves a model exactly when there are such turns, and no plugin has two of them.
It succeeds exactly when every active plugin has had its turn and succeeded, and otherwise it names
the plugin that failed.  Plugins without a turn never touch the model: with any others in their
places the run is the same. -/
theorem run_iff_turns (cp : Classpath) (calls : List Call) (m : CodeModel) :
    (∀ result m', ((ofClasspath cp).performAll calls).run m = (result, m') ↔
      ∃ turns, ((ofClasspath cp).performAll calls).Runs m turns result m' ∧
        (turns.map (·.position)).Nodup) ∧
    ∀ turns result m', ((ofClasspath cp).performAll calls).Runs m turns result m' →
      ∀ q : Pipeline, q.classpath = ((ofClasspath cp).performAll calls).classpath →
        q.active = ((ofClasspath cp).performAll calls).active →
        (∀ t ∈ turns, q.plugins[t.position]? =
          ((ofClasspath cp).performAll calls).plugins[t.position]?) →
        q.run m = (result, m') := by
  have hsound := (sound_ofClasspath cp).performAll calls
  generalize (ofClasspath cp).performAll calls = p at hsound
  refine ⟨fun result m' => ⟨fun h => ?_, ?_⟩, ?_⟩
  · obtain ⟨turns, result', m'', hruns⟩ := exists_runs p.classpath hsound.active_lt m
    have hrun : p.run m = (result', m'') := run_of_runs hruns
    obtain ⟨rfl, rfl⟩ : result = result' ∧ m' = m'' := Prod.mk.inj (h.symm.trans hrun)
    exact ⟨turns, hruns, hruns.order.sublist.nodup hsound.active_nodup⟩
  · rintro ⟨turns, hruns, -⟩
    exact run_of_runs hruns
  · intro turns result m' hruns q hclasspath hactive hplugins
    exact run_of_runs (hruns.congr hclasspath hactive hplugins)

end Pipeline

end ClassGen
