/-
# Several command lines for the plugin for derived methods

A pipeline that holds this plugin alone is given command lines one after the other, and some of them
may fail.  A command line fails at its first token that is neither the flag of the plugin nor selects
a style that there is; the tokens before that one have been accepted, and what they did stays.  So
the style is what the last accepted selecting token names, and the plugin is on as soon as a token
was accepted, as if all accepted tokens had been written in one command line
(`Style.pipelineAfter_reads_tokens`).
-/
import ClassGen.Proofs.Derived.Tokens
import ClassGen.Proofs.Pipeline.Calls

namespace ClassGen

open Text

namespace Style

variable (catalog : StyleCatalog) (cp : Classpath)

/-- The token is the flag of the plugin, or it selects a style that there is. -/
def Accepts (token : String) : Prop :=
  trim token = "-Xcommons-lang" ∨
    ∃ text selected, Selects token text ∧ resolve catalog cp text = .ok selected

/-- Why a token is not accepted: it selects a style that there is not, or it is no token of the
plugin. -/
inductive Fault (token : String) : ArgumentError → Prop
  | unresolved {text : String} {refusal : Refusal} : Selects token text →
      resolve catalog cp text = .error refusal →
      Fault token (.configuration refusal.toError)
  | unrecognized : (∀ text, ¬ Selects token text) → trim token ≠ "-Xcommons-lang" →
      Fault token (.unrecognized token)

/-- The tokens of a command line that are accepted, and what comes of the command line: all its
tokens are, or those before the first one that is not. -/
inductive Reads : List String → List String → Except ArgumentError Unit → Prop
  | all {tokens : List String} : (∀ t ∈ tokens, Accepts catalog cp t) →
      Reads tokens tokens (.ok ())
  | upTo {before after : List String} {token : String} {e : ArgumentError} :
      (∀ t ∈ before, Accepts catalog cp t) → Fault catalog cp token e →
      Reads (before ++ token :: after) before (.error e)

/-- The pipeline that started with this plugin alone, after command lines. -/
def pipelineAfter (calls : List (List String)) : Pipeline :=
  ((Pipeline.ofClasspath cp).register (plugin catalog .initial)).performAll
    (calls.map .arguments)

variable {catalog cp} {style selected chosen : Style} {on : Bool} {args tokens accepted : List String}
  {token text : String} {result : Except ArgumentError Unit} {e : ArgumentError}

/-! ### One token -/

lemma not_selects_of_flag (h : trim token = "-Xcommons-lang") (text : String) :
    ¬ Selects token text := by
  intro hselects
  have hlength := congrArg String.length (h.symm.trans hselects)
  have hflag : "-Xcommons-lang".length = 14 := rfl
  have hstart : "-Xcommons-lang:ToStringStyle=".length = 29 := rfl
  rw [String.length_append, hflag, hstart] at hlength
  omega

lemma exists_readToken_iff (style : Style) :
    (∃ selected, readToken catalog cp style token = .ok selected) ↔ Accepts catalog cp token := by
  simp only [readToken_eq_ok_iff]
  constructor
  · rintro ⟨selected, ⟨text, hselects, hresolve⟩ | ⟨-, hflag, -⟩⟩
    · exact Or.inr ⟨text, selected, hselects, hresolve⟩
    · exact Or.inl hflag
  · rintro (hflag | ⟨text, selected, hselects, hresolve⟩)
    · exact ⟨style, Or.inr ⟨not_selects_of_flag hflag, hflag, rfl⟩⟩
    · exact ⟨selected, Or.inl ⟨text, hselects, hresolve⟩⟩

lemma readToken_eq_error_iff_fault (style : Style) :
    readToken catalog cp style token = .error e ↔ Fault catalog cp token e := by
  rw [readToken_eq_error_iff]
  constructor
  · rintro (⟨text, refusal, hselects, hresolve, rfl⟩ | ⟨hnone, hflag, rfl⟩)
    · exact .unresolved hselects hresolve
    · exact .unrecognized hnone hflag
  · intro h
    cases h with
    | unresolved hselects hresolve => exact Or.inl ⟨_, _, hselects, hresolve, rfl⟩
    | unrecognized hnone hflag => exact Or.inr ⟨hnone, hflag, rfl⟩

/-- A token is accepted or has a fault. -/
lemma accepts_or_fault (catalog : StyleCatalog) (cp : Classpath) (token : String) :
    Accepts catalog cp token ∨ ∃ e, Fault catalog cp token e := by
  rcases hread : readToken catalog cp .initial token with e | selected
  · exact Or.inr ⟨e, (readToken_eq_error_iff_fault _).1 hread⟩
  · exact Or.inl ((exists_readToken_iff _).1 ⟨selected, hread⟩)

lemma Fault.not_accepts (h : Fault catalog cp token e) : ¬ Accepts catalog cp token := by
  intro haccepts
  obtain ⟨selected, hread⟩ := (exists_readToken_iff .initial).2 haccepts
  rw [(readToken_eq_error_iff_fault .initial).2 h] at hread
  cases hread

lemma Fault.unique {e' : ArgumentError} (h : Fault catalog cp token e)
    (h' : Fault catalog cp token e') : e = e' := by
  have hread := (readToken_eq_error_iff_fault .initial).2 h
  rw [(readToken_eq_error_iff_fault .initial).2 h'] at hread
  cases hread
  rfl

/-! ### One command line -/

lemma exists_reads (catalog : StyleCatalog) (cp : Classpath) (tokens : List String) :
    ∃ accepted result, Reads catalog cp tokens accepted result := by
  induction tokens with
  | nil => exact ⟨[], .ok (), .all (by simp)⟩
  | cons token tokens ih =>
    rcases accepts_or_fault catalog cp token with haccepts | ⟨e, hfault⟩
    · obtain ⟨accepted, result, h⟩ := ih
      cases h with
      | all hall => exact ⟨_, _, .all (List.forall_mem_cons.2 ⟨haccepts, hall⟩)⟩
      | upTo hbefore hfault =>
        have hcons : ∀ t ∈ token :: accepted, Accepts catalog cp t :=
          List.forall_mem_cons.2 ⟨haccepts, hbefore⟩
        exact ⟨_, _, .upTo hcons hfault⟩
    · have hnone : ∀ t ∈ ([] : List String), Accepts catalog cp t := by simp
      exact ⟨[], .error e, @Reads.upTo catalog cp [] tokens token e hnone hfault⟩

/-- A command line is accepted exactly when all its tokens are. -/
lemma Reads.result_eq_ok_iff (h : Reads catalog cp tokens accepted result) :
    result = .ok () ↔ ∀ t ∈ tokens, Accepts catalog cp t := by
  cases h with
  | all hall => exact iff_of_true rfl hall
  | upTo _ hfault =>
    refine iff_of_false (by simp) fun hall => ?_
    exact hfault.not_accepts (hall _ (List.mem_append_right _ List.mem_cons_self))

/-- A command line is refused for its first token that is not accepted. -/
lemma Reads.result_eq_error_iff (h : Reads catalog cp tokens accepted result) :
    result = .error e ↔ ∃ before token after, tokens = before ++ token :: after ∧
      (∀ t ∈ before, Accepts catalog cp t) ∧ Fault catalog cp token e := by
  constructor
  · rintro rfl
    cases h with
    | upTo hbefore hfault => exact ⟨_, _, _, rfl, hbefore, hfault⟩
  · rintro ⟨before, token, after, rfl, hbefore, hfault⟩
    generalize htokens : before ++ token :: after = tokens at h
    cases h with
    | all hall =>
      rw [← htokens] at hall
      exact absurd (hall token (by simp)) hfault.not_accepts
    | @upTo before' after' token' e' hbefore' hfault' =>
      -- of two first tokens with a fault neither can stand among those before the other one
      rcases List.append_eq_append_iff.1 htokens with ⟨ds, rfl, hds⟩ | ⟨ds, rfl, hds⟩
      · rcases List.cons_eq_append_iff.1 hds with ⟨rfl, hcons⟩ | ⟨es, rfl, -⟩
        · cases hcons
          rw [hfault.unique hfault']
        · exact absurd (hbefore' token (by simp)) hfault.not_accepts
      · rcases List.cons_eq_append_iff.1 hds with ⟨rfl, hcons⟩ | ⟨es, rfl, -⟩
        · cases hcons
          rw [hfault.unique hfault']
        · exact absurd (hbefore token' (by simp)) hfault'.not_accepts

/-- Reading tokens in two parts is reading them together, as long as the first part is accepted. -/
lemma readTokens_append (style : Style) (on : Bool) (as bs : List String) :
    readTokens catalog cp style on (as ++ bs) =
      match readTokens catalog cp style on as with
      | (.ok (), selected, on') => readTokens catalog cp selected on' bs
      | (.error e, selected, on') => (.error e, selected, on') := by
  induction as generalizing style on with
  | nil => rfl
  | cons token as ih =>
    rw [List.cons_append, readTokens, readTokens]
    rcases readToken catalog cp style token with e | selected
    · rfl
    · exact ih selected true

lemma exists_readTokens_of_accepts (style : Style) (on : Bool)
    (h : ∀ t ∈ tokens, Accepts catalog cp t) :
    ∃ selected on', readTokens catalog cp style on tokens = (.ok (), selected, on') := by
  induction tokens generalizing style on with
  | nil => exact ⟨style, on, rfl⟩
  | cons token tokens ih =>
    obtain ⟨htoken, htokens⟩ := List.forall_mem_cons.1 h
    obtain ⟨selected, hread⟩ := (exists_readToken_iff style).2 htoken
    rw [readTokens, hread]
    exact ih selected true htokens

/-- The accepted tokens of a command line decide what it leaves. -/
lemma exists_readTokens_of_reads (h : Reads catalog cp tokens accepted result) (style : Style)
    (on : Bool) :
    ∃ selected, Chosen catalog cp style accepted selected ∧
      readTokens catalog cp style on tokens = (result, selected, on || !accepted.isEmpty) := by
  cases h with
  | all hall =>
    obtain ⟨selected, on', hread⟩ := exists_readTokens_of_accepts style on hall
    refine ⟨selected, chosen_of_readTokens hread, ?_⟩
    rw [hread, on_of_readTokens hread]
  | @upTo before after token e hbefore hfault =>
    obtain ⟨selected, on', hread⟩ := exists_readTokens_of_accepts style on hbefore
    refine ⟨selected, chosen_of_readTokens hread, ?_⟩
    rw [readTokens_append, hread, on_of_readTokens hread]
    -- the token with the fault leaves the style and the plugin as they are
    simp only [readTokens, (readToken_eq_error_iff_fault selected).2 hfault]

/-- What a selecting token names stays until the next one that selects. -/
lemma Chosen.append {as bs : List String} (h : Chosen catalog cp style as selected)
    (h' : Chosen catalog cp selected bs chosen) : Chosen catalog cp style (as ++ bs) chosen := by
  cases h' with
  | @last before after token text _ hselects hresolve hafter =>
    rw [← List.append_assoc]
    exact .last hselects hresolve hafter
  | none hbs =>
    cases h with
    | @last before after token text _ hselects hresolve hafter =>
      rw [List.append_assoc, List.cons_append]
      exact .last hselects hresolve (List.forall_mem_append.2 ⟨hafter, hbs⟩)
    | none has => exact .none (List.forall_mem_append.2 ⟨has, hbs⟩)

/-! ### Several command lines -/

/-- One command line leaves the pipeline of this plugin with the style of its accepted tokens. -/
lemma exists_parseArguments_of_reads (h : Reads catalog cp args accepted result) (style : Style)
    (on : Bool) :
    ∃ selected, Chosen catalog cp style accepted selected ∧
      (pipeline catalog cp style on).parseArguments args =
        (result, pipeline catalog cp selected (on || !accepted.isEmpty)) := by
  obtain ⟨selected, hchosen, hread⟩ := exists_readTokens_of_reads h style on
  exact ⟨selected, hchosen, parseArguments_pipeline hread⟩

lemma exists_performAll_pipeline (catalog : StyleCatalog) (cp : Classpath) (style : Style)
    (on : Bool) (calls : List (List String)) :
    ∃ accepted selected,
      List.Forall₂ (fun call tokens => ∃ result, Reads catalog cp call tokens result)
        calls accepted ∧
      Chosen catalog cp style accepted.flatten selected ∧
      (pipeline catalog cp style on).performAll (calls.map .arguments) =
        pipeline catalog cp selected (on || !accepted.flatten.isEmpty) := by
  induction calls generalizing style on with
  | nil => exact ⟨[], style, .nil, .none (by simp), by simp [Pipeline.performAll]⟩
  | cons call calls ih =>
    obtain ⟨first, result, hreads⟩ := exists_reads catalog cp call
    obtain ⟨style', hfirst, hparse⟩ := exists_parseArguments_of_reads hreads style on
    obtain ⟨accepted, selected, hall, hchosen, hrest⟩ := ih style' (on || !first.isEmpty)
    refine ⟨first :: accepted, selected, .cons ⟨result, hreads⟩ hall, ?_, ?_⟩
    · rw [List.flatten_cons]
      exact hfirst.append hchosen
    · calc (pipeline catalog cp style on).performAll ((call :: calls).map .arguments)
          = (pipeline catalog cp style' (on || !first.isEmpty)).performAll
              (calls.map .arguments) := by
            rw [List.map_cons, Pipeline.performAll, List.foldl_cons, Pipeline.perform, hparse]
            rfl
        _ = pipeline catalog cp selected (on || !(first :: accepted).flatten.isEmpty) := by
            rw [hrest, List.flatten_cons, Bool.or_assoc]
            cases first <;> simp

lemma parseArguments_append (style : Style) (on : Bool) (as bs : List String) :
    (pipeline catalog cp style on).parseArguments (as ++ bs) =
      match (pipeline catalog cp style on).parseArguments as with
      | (.ok (), p) => p.parseArguments bs
      | (.error e, p) => (.error e, p) := by
  rcases has : readTokens catalog cp style on as with ⟨e | ⟨⟩, selected, on'⟩
  · have happend : readTokens catalog cp style on (as ++ bs) = (.error e, selected, on') := by
      rw [readTokens_append, has]
    rw [parseArguments_pipeline has, parseArguments_pipeline happend]
  · rcases hbs : readTokens catalog cp selected on' bs with ⟨result, chosen, on''⟩
    have happend : readTokens catalog cp style on (as ++ bs) = (result, chosen, on'') := by
      rw [readTokens_append, has]
      exact hbs
    rw [parseArguments_pipeline has, parseArguments_pipeline happend]
    exact (parseArguments_pipeline hbs).symm

/-- **Command lines of the plugin are read token by token, and the last selection counts.**  After
any command lines, failed ones included, the style is what the last selecting token among the
accepted ones names, and the plugin is on exactly when a token was accepted.  The next command line
succeeds exactly when all its tokens are accepted, and else fails with the fault of the first one
that is not.  Two command lines in one leave what they leave one after the other, if the first one
is accepted. -/
theorem pipelineAfter_reads_tokens (catalog : StyleCatalog) (cp : Classpath)
    (calls : List (List String)) :
    (∃ accepted style,
      List.Forall₂ (fun call tokens => ∃ result,
        Reads catalog (cp.register baseDecl) call tokens result) calls accepted ∧
      Chosen catalog (cp.register baseDecl) (.named .multiLine) accepted.flatten style ∧
      pipelineAfter catalog cp calls =
        ⟨cp.register baseDecl, [plugin catalog style],
          if accepted.flatten = [] then [] else [0]⟩) ∧
    (∀ args,
      (((pipelineAfter catalog cp calls).parseArguments args).1 = .ok () ↔
        ∀ token ∈ args, Accepts catalog (cp.register baseDecl) token) ∧
      ∀ e, ((pipelineAfter catalog cp calls).parseArguments args).1 = .error e ↔
        ∃ before token after, args = before ++ token :: after ∧
          (∀ t ∈ before, Accepts catalog (cp.register baseDecl) t) ∧
          Fault catalog (cp.register baseDecl) token e) ∧
    ∀ as bs, (pipelineAfter catalog cp calls).parseArguments (as ++ bs) =
      match (pipelineAfter catalog cp calls).parseArguments as with
      | (.ok (), p) => p.parseArguments bs
      | (.error e, p) => (.error e, p) := by
  obtain ⟨accepted, style, hall, hchosen, hpipeline⟩ :=
    exists_performAll_pipeline catalog (cp.register baseDecl) .initial false calls
  have hafter : pipelineAfter catalog cp calls =
      pipeline catalog (cp.register baseDecl) style (!accepted.flatten.isEmpty) := hpipeline
  refine ⟨⟨accepted, style, hall, hchosen, ?_⟩, fun args => ?_, fun as bs => ?_⟩
  · rw [hafter, pipeline]
    by_cases hnone : accepted.flatten = []
    · simp [hnone]
    · simp [hnone]
  · obtain ⟨tokens, result, hreads⟩ := exists_reads catalog (cp.register baseDecl) args
    obtain ⟨selected, -, hparse⟩ :=
      exists_parseArguments_of_reads hreads style (!accepted.flatten.isEmpty)
    rw [hafter, hparse]
    exact ⟨hreads.result_eq_ok_iff, fun e => hreads.result_eq_error_iff⟩
  · rw [hafter]
    exact parseArguments_append style _ as bs

end Style

end ClassGen
