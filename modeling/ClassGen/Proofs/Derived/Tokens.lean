/-
# Tokens of the plugin for derived methods

A pipeline that holds this plugin alone reads its tokens from left to right.  A token is the flag of
the plugin, or it selects a style, and any other token is refused.  The first token that is accepted
turns the plugin on; every one that selects a style replaces the style.  So after tokens that were
all accepted the style is what the last selecting token names (`Style.chosen_of_readTokens`).
-/
import ClassGen.Derived.Plugin
import ClassGen.Proofs.Pipeline.Dispatch

namespace ClassGen

open Text

namespace Style

variable (catalog : StyleCatalog) (cp : Classpath)

/-- The token selects the style that the text names.  Blanks around the token do not count. -/
def Selects (token text : String) : Prop :=
  trim token = "-Xcommons-lang:ToStringStyle=" ++ text

/-- The style after tokens that are all accepted: the one that the last selecting token names, or
the one from before when no token selects. -/
inductive Chosen (style : Style) : List String → Style → Prop
  | last {before after : List String} {token text : String} {selected : Style} :
      Selects token text → resolve catalog cp text = .ok selected →
      (∀ t ∈ after, ∀ s, ¬ Selects t s) → Chosen style (before ++ token :: after) selected
  | none {tokens : List String} : (∀ t ∈ tokens, ∀ s, ¬ Selects t s) →
      Chosen style tokens style

/-- The style after one token. -/
def readToken (style : Style) (token : String) : Except ArgumentError Style :=
  match selection? token with
  | some text => (resolve catalog cp text).mapError fun refusal => .configuration refusal.toError
  | none => if trim token = "-Xcommons-lang" then .ok style else .error (.unrecognized token)

/-- The style after the tokens, up to the first one that is refused, and whether the plugin is on by
then. -/
def readTokens (style : Style) (on : Bool) :
    List String → Except ArgumentError Unit × Style × Bool
  | [] => (.ok (), style, on)
  | token :: tokens =>
    match readToken catalog cp style token with
    | .ok selected => readTokens selected true tokens
    | .error e => (.error e, style, on)

/-- The pipeline of this plugin alone, turned on or not. -/
def pipeline (style : Style) (on : Bool) : Pipeline :=
  ⟨cp, [plugin catalog style], if on then [0] else []⟩

variable {catalog cp} {style selected : Style} {on : Bool} {args tokens : List String}
  {token text : String} {i : Nat}

/-! ### One token -/

lemma dropStart?_eq_some_iff {start cs rest : List Char} :
    dropStart? start cs = some rest ↔ cs = start ++ rest := by
  induction start generalizing cs with
  | nil => simp [dropStart?, eq_comm]
  | cons a start ih =>
    cases cs with
    | nil => simp [dropStart?]
    | cons c cs =>
      by_cases hac : a = c
      · simp [dropStart?, hac, ih]
      · have hca : ¬ c = a := fun h => hac h.symm
        simp [dropStart?, hac, hca]

lemma selection?_eq_some_iff : selection? token = some text ↔ Selects token text := by
  have hstart : tokenStart = "-Xcommons-lang:ToStringStyle=" := rfl
  rw [selection?, Option.map_eq_some_iff, Selects, trim, ← hstart]
  simp only [dropStart?_eq_some_iff]
  constructor
  · rintro ⟨rest, hrest, rfl⟩
    rw [hrest, String.ofList_append, String.ofList_toList]
  · intro h
    refine ⟨text.toList, ?_, String.ofList_toList⟩
    rw [← String.toList_append, ← h, String.toList_ofList]

lemma selection?_eq_none_iff : selection? token = none ↔ ∀ text, ¬ Selects token text := by
  simp only [Option.eq_none_iff_forall_ne_some, ne_eq, selection?_eq_some_iff]

lemma readToken_eq_ok_iff : readToken catalog cp style token = .ok selected ↔
    (∃ text, Selects token text ∧ resolve catalog cp text = .ok selected) ∨
      (∀ text, ¬ Selects token text) ∧ trim token = "-Xcommons-lang" ∧ selected = style := by
  simp only [← selection?_eq_some_iff]
  rcases hselection : selection? token with _ | text
  · by_cases hflag : trim token = "-Xcommons-lang"
    · simp [readToken, hselection, hflag, eq_comm]
    · simp [readToken, hselection, hflag]
  · rcases hresolve : resolve catalog cp text with refusal | selected'
    · simp [readToken, hselection, hresolve, Except.mapError]
    · simp [readToken, hselection, hresolve, Except.mapError]

lemma readToken_eq_error_iff {e : ArgumentError} : readToken catalog cp style token = .error e ↔
    (∃ text refusal, Selects token text ∧ resolve catalog cp text = .error refusal ∧
      e = .configuration refusal.toError) ∨
      (∀ text, ¬ Selects token text) ∧ trim token ≠ "-Xcommons-lang" ∧
        e = .unrecognized token := by
  simp only [← selection?_eq_some_iff]
  rcases hselection : selection? token with _ | text
  · by_cases hflag : trim token = "-Xcommons-lang"
    · simp [readToken, hselection, hflag]
    · simp [readToken, hselection, hflag, eq_comm]
  · rcases hresolve : resolve catalog cp text with refusal | selected'
    · simp [readToken, hselection, hresolve, Except.mapError, eq_comm]
    · simp [readToken, hselection, hresolve, Except.mapError]

/-! ### One token and the plugin -/

lemma flag_plugin (catalog : StyleCatalog) (style : Style) :
    (plugin catalog style).flag = "-Xcommons-lang" := by
  have h : "-" ++ optionName = "-Xcommons-lang" := by decide
  exact h

/-- Asking the plugin about a token is asking for its claim. -/
lemma offer_plugin (catalog : StyleCatalog) (style : Style) (cp : Classpath) (args : List String)
    (i : Nat) : (plugin catalog style).offer cp args i =
      ((claim catalog style cp args i).1, plugin catalog (claim catalog style cp args i).2) := rfl

lemma offer_of_selects (catalog : StyleCatalog) (style : Style) (cp : Classpath)
    (htoken : args[i]? = some token) (h : Selects token text) :
    (plugin catalog style).offer cp args i =
      match resolve catalog cp text with
      | .ok selected => (.ok 1, plugin catalog selected)
      | .error refusal => (.error refusal.toError, plugin catalog style) := by
  rw [offer_plugin, claim, htoken, Option.bind_some, selection?_eq_some_iff.2 h]
  rcases hresolve : resolve catalog cp text with refusal | selected <;> simp only [hresolve]

lemma offer_of_not_selects (catalog : StyleCatalog) (style : Style) (cp : Classpath)
    (htoken : args[i]? = some token) (h : ∀ text, ¬ Selects token text) :
    (plugin catalog style).offer cp args i = (.ok 0, plugin catalog style) := by
  rw [offer_plugin, claim, htoken, Option.bind_some, selection?_eq_none_iff.2 h]

/-- A token that is accepted is claimed by the plugin, alone. -/
lemma among_of_readToken_eq_ok (htoken : args[i]? = some token)
    (h : readToken catalog cp style token = .ok selected) :
    Claim.among cp args i token 0 [plugin catalog style] =
      (.claimed 0 1, [plugin catalog selected]) := by
  rw [Claim.among]
  rcases readToken_eq_ok_iff.1 h with ⟨text, hselects, hresolve⟩ | ⟨hnone, hflag, rfl⟩
  · rw [offer_of_selects catalog style cp htoken hselects, hresolve]
  · rw [offer_of_not_selects catalog selected cp htoken hnone]
    simp only [flag_plugin, hflag, if_true]

/-! ### One position -/

lemma parseFrom_of_readToken_eq_ok (hi : i < args.length)
    (h : readToken catalog cp style args[i] = .ok selected) :
    (pipeline catalog cp style on).parseFrom args i =
      (pipeline catalog cp selected true).parseFrom args (i + 1) := by
  have htoken : args[i]? = some args[i] := List.getElem?_eq_getElem hi
  have hargument : (pipeline catalog cp style on).parseArgument args i =
      (.ok 1, pipeline catalog cp selected true) := by
    simp only [Pipeline.parseArgument, pipeline, htoken, among_of_readToken_eq_ok htoken h]
    cases on <;> rfl
  rw [Pipeline.parseFrom, dif_pos hi, hargument]

lemma parseFrom_of_readToken_eq_error {e : ArgumentError} (hi : i < args.length)
    (h : readToken catalog cp style args[i] = .error e) :
    (pipeline catalog cp style on).parseFrom args i = (.error e, pipeline catalog cp style on) := by
  have htoken : args[i]? = some args[i] := List.getElem?_eq_getElem hi
  rw [Pipeline.parseFrom, dif_pos hi, Pipeline.parseArgument, htoken]
  simp only [pipeline, Claim.among]
  rcases readToken_eq_error_iff.1 h with
    ⟨text, refusal, hselects, hresolve, rfl⟩ | ⟨hnone, hflag, rfl⟩
  · rw [offer_of_selects catalog style cp htoken hselects, hresolve]
  · rw [offer_of_not_selects catalog style cp htoken hnone]
    simp only [flag_plugin, hflag, if_false]

/-! ### All tokens -/

lemma parseFrom_pipeline {result : Except ArgumentError Unit} {on' : Bool}
    (htokens : args.drop i = tokens)
    (h : readTokens catalog cp style on tokens = (result, selected, on')) :
    (pipeline catalog cp style on).parseFrom args i =
      (result, pipeline catalog cp selected on') := by
  induction tokens generalizing style on i with
  | nil =>
    have hi : ¬ i < args.length := by simpa using htokens
    rw [Pipeline.parseFrom, dif_neg hi]
    cases h
    rfl
  | cons token tokens ih =>
    -- there is a token left, so there is one at position `i`, and it is the first of those left
    have hi : i < args.length := by
      by_contra hge
      rw [List.drop_eq_nil_of_le (by omega)] at htokens
      cases htokens
    rw [List.drop_eq_getElem_cons hi, List.cons.injEq] at htokens
    obtain ⟨rfl, hrest⟩ := htokens
    rw [readTokens] at h
    rcases hread : readToken catalog cp style args[i] with e | style'
    · rw [hread] at h
      cases h
      exact parseFrom_of_readToken_eq_error hi hread
    · rw [hread] at h
      rw [parseFrom_of_readToken_eq_ok hi hread]
      exact ih hrest h

/-- The pipeline of this plugin alone reads its tokens one by one. -/
lemma parseArguments_pipeline {result : Except ArgumentError Unit} {on' : Bool}
    (h : readTokens catalog cp style on args = (result, selected, on')) :
    (pipeline catalog cp style on).parseArguments args =
      (result, pipeline catalog cp selected on') :=
  parseFrom_pipeline rfl h

lemma on_of_readTokens {on' : Bool}
    (h : readTokens catalog cp style on tokens = (.ok (), selected, on')) :
    on' = (on || !tokens.isEmpty) := by
  induction tokens generalizing style on with
  | nil =>
    cases h
    simp
  | cons token tokens ih =>
    rw [readTokens] at h
    rcases hread : readToken catalog cp style token with e | style'
    · rw [hread] at h
      cases h
    · rw [hread] at h
      simpa using ih h

lemma Chosen.cons (hread : readToken catalog cp style token = .ok selected) {chosen : Style}
    (h : Chosen catalog cp selected tokens chosen) :
    Chosen catalog cp style (token :: tokens) chosen := by
  cases h with
  | @last before after t text _ hselects hresolve hafter =>
    -- a later token selects, so it does not matter what this one does
    exact @Chosen.last _ _ _ (token :: before) _ _ _ _ hselects hresolve hafter
  | none hnone =>
    rcases readToken_eq_ok_iff.1 hread with ⟨text, hselects, hresolve⟩ | ⟨hflag, -, rfl⟩
    · exact @Chosen.last _ _ _ [] _ _ _ _ hselects hresolve hnone
    · exact .none (List.forall_mem_cons.2 ⟨hflag, hnone⟩)

/-- After tokens that are all accepted the style is what the last selecting token names. -/
lemma chosen_of_readTokens {on' : Bool}
    (h : readTokens catalog cp style on tokens = (.ok (), selected, on')) :
    Chosen catalog cp style tokens selected := by
  induction tokens generalizing style on with
  | nil =>
    cases h
    exact .none (by simp)
  | cons token tokens ih =>
    rw [readTokens] at h
    rcases hread : readToken catalog cp style token with e | style'
    · rw [hread] at h
      cases h
    · rw [hread] at h
      exact (ih h).cons hread

end Style

end ClassGen
