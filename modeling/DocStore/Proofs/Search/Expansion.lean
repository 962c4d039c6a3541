import DocStore.Search.Expansion
import DocStore.Proofs.Search.Steps
import Mathlib.Data.List.Perm.Basic

/-!
# What a part of a search string stands for

Within one alternative, the texts before a part of a search string and the part itself do
not depend on each other: reading the part goes on every text so far with each text of its
own. The expansion of two parts in a row is therefore the product of their expansions.
-/

namespace DocStore.Search

variable {partials choices others : List (List Char)} {segments : List Segment}
  {segment : Segment} {a b a' : Position} {text part rest : List Char}
  {done : List (List Segment)}

/-! ## Products of texts -/

/-- The texts that make one choice of every segment. -/
def product (segments : List Segment) : List (List Char) :=
  segments.foldl extend [[]]

theorem extend_nil (partials : List (List Char)) : extend partials (.text []) = partials := by
  simp [extend, Segment.choices]

theorem nil_extend (segment : Segment) : extend [[]] segment = segment.choices := by
  simp [extend, List.flatMap_singleton']

theorem extend_ne_nil (hpartials : partials ≠ []) (hchoices : segment.choices ≠ []) :
    extend partials segment ≠ [] := by
  obtain ⟨choice, others, hchoices⟩ := List.exists_cons_of_ne_nil hchoices
  simp [extend, hchoices, hpartials]

theorem extend_extend :
    extend (extend partials (.options choices)) segment =
      extend partials (.options (extend choices segment)) := by
  simp [extend, Segment.choices, List.map_flatMap, List.flatMap_assoc, List.flatMap_map,
    Function.comp_def]

theorem product_append_singleton :
    product (segments ++ [segment]) = extend (product segments) segment := by
  simp [product]

theorem product_flushed (a : Position) :
    product a.flushed = extend (product a.segments) (.text a.pending) := by
  unfold Position.flushed
  split
  · rename_i hempty
    rw [List.isEmpty_iff.mp hempty, extend_nil]
  · exact product_append_singleton

/-- Once there are partial texts, there are some after every segment with a choice. -/
theorem foldl_grow (hpartials : partials ≠ []) (hsegments : Choosable segments) :
    segments.foldl grow partials = segments.foldl extend partials := by
  induction segments generalizing partials with
  | nil => rfl
  | cons segment rest ih =>
      obtain ⟨hsegment, hrest⟩ := List.forall_mem_cons.mp hsegments
      have hgrow : grow partials segment = extend partials segment :=
        if_neg (by simpa using hpartials)
      rw [List.foldl_cons, List.foldl_cons, hgrow]
      exact ih (extend_ne_nil hpartials hsegment) hrest

/-- Where there are segments, beginning without any text comes to the same as beginning with the
empty one. -/
theorem expand_eq_product (hne : segments ≠ []) (hsegments : Choosable segments) :
    expand segments = product segments := by
  obtain ⟨first, rest, rfl⟩ := List.exists_cons_of_ne_nil hne
  obtain ⟨hfirst, hrest⟩ := List.forall_mem_cons.mp hsegments
  calc expand (first :: rest) = rest.foldl grow first.choices := rfl
    _ = rest.foldl extend first.choices := foldl_grow hfirst hrest
    _ = product (first :: rest) := by rw [product, List.foldl_cons, nil_extend]

/-! ## Positions that differ in the texts before them -/

/-- The texts of the alternative that has begun, up to the bracket that is open. -/
def Position.texts (position : Position) : List (List Char) :=
  match position.bracket with
  | none => product position.flushed
  | some _ => product position.segments

/-- A position is like another one, but with these texts before those of that one. -/
structure Prefixed (partials : List (List Char)) (a a' : Position) : Prop where
  quote : a'.quote.isSome = a.quote.isSome
  bracket : a'.bracket.map Prod.snd = a.bracket.map Prod.snd
  pending : a.bracket.isSome = true → a'.pending = a.pending
  texts : a'.texts = extend partials (.options a.texts)

namespace Position

variable {place : Nat} {options : List (List Char)}

theorem texts_append (hbracket : a.bracket = none) (text : List Char) :
    (a.append text).texts = extend a.texts (.text text) := by
  simp only [texts, append, hbracket, product_flushed]
  simp [extend, Segment.choices]

theorem texts_advance (position : Position) (bytes : Nat) :
    (position.advance bytes).texts = position.texts :=
  rfl

/-- Inside brackets the pending text is an option, and no text so far ends with it. -/
theorem texts_append_inside (hbracket : a.bracket = some (place, options)) (text : List Char) :
    (a.append text).texts = a.texts := by
  simp only [texts, append, hbracket]

theorem texts_openBracket (hbracket : a.bracket = none) : a.openBracket.texts = a.texts := by
  simp only [texts, openBracket, hbracket]

theorem texts_nextOption (hbracket : a.bracket = some (place, options)) :
    (a.nextOption place options).texts = a.texts := by
  simp only [texts, nextOption, hbracket]

theorem texts_closeBracket (hbracket : a.bracket = some (place, options)) (optional : Bool) :
    (a.closeBracket options optional).texts =
      extend a.texts (.options (options ++ [a.pending] ++ if optional then [[]] else [])) := by
  simp [texts, closeBracket, hbracket, product_flushed, product_append_singleton, extend_nil]

end Position

namespace Prefixed

variable {place place' : Nat} {options : List (List Char)}

theorem quote_eq_none (hprefixed : Prefixed partials a a') (hquote : a.quote = none) :
    a'.quote = none := by
  simpa [hquote] using hprefixed.quote

theorem bracket_eq_none (hprefixed : Prefixed partials a a') (hbracket : a.bracket = none) :
    a'.bracket = none := by
  simpa [hbracket] using hprefixed.bracket

theorem bracket_eq_some (hprefixed : Prefixed partials a a')
    (hbracket : a.bracket = some (place, options)) :
    ∃ place', a'.bracket = some (place', options) := by
  simpa [hbracket] using hprefixed.bracket

theorem pending_eq (hprefixed : Prefixed partials a a')
    (hbracket : a.bracket = some (place, options)) : a'.pending = a.pending :=
  hprefixed.pending (by rw [hbracket]; rfl)

theorem advance (hprefixed : Prefixed partials a a') (bytes : Nat) :
    Prefixed partials (a.advance bytes) (a'.advance bytes) :=
  ⟨hprefixed.quote, hprefixed.bracket, hprefixed.pending, hprefixed.texts⟩

theorem toggleQuote (hprefixed : Prefixed partials a a') :
    Prefixed partials a.toggleQuote a'.toggleQuote := by
  refine ⟨?_, hprefixed.bracket, hprefixed.pending, hprefixed.texts⟩
  have hquote := hprefixed.quote
  unfold Position.toggleQuote
  cases ha : a.quote <;> cases ha' : a'.quote <;> simp_all

theorem append (hprefixed : Prefixed partials a a') (text : List Char) :
    Prefixed partials (a.append text) (a'.append text) := by
  have hpending (hbracket : a.bracket.isSome = true) :
      (a'.append text).pending = (a.append text).pending := by
    rw [Position.append, Position.append, hprefixed.pending hbracket]
  refine ⟨hprefixed.quote, hprefixed.bracket, hpending, ?_⟩
  cases hbracket : a.bracket with
  | none =>
      rw [Position.texts_append (hprefixed.bracket_eq_none hbracket), hprefixed.texts,
        Position.texts_append hbracket, extend_extend]
  | some opened =>
      obtain ⟨place', hbracket'⟩ := hprefixed.bracket_eq_some hbracket
      rw [Position.texts_append_inside hbracket', hprefixed.texts,
        Position.texts_append_inside hbracket]

theorem openBracket (hprefixed : Prefixed partials a a') (hbracket : a.bracket = none) :
    Prefixed partials a.openBracket a'.openBracket := by
  refine ⟨hprefixed.quote, rfl, fun _ => rfl, ?_⟩
  rw [Position.texts_openBracket (hprefixed.bracket_eq_none hbracket), hprefixed.texts,
    Position.texts_openBracket hbracket]

theorem nextOption (hprefixed : Prefixed partials a a')
    (hbracket : a.bracket = some (place, options))
    (hbracket' : a'.bracket = some (place', options)) :
    Prefixed partials (a.nextOption place options) (a'.nextOption place' options) := by
  refine ⟨hprefixed.quote, ?_, fun _ => rfl, ?_⟩
  · simp [Position.nextOption, hprefixed.pending_eq hbracket]
  · rw [Position.texts_nextOption hbracket', hprefixed.texts, Position.texts_nextOption hbracket]

theorem closeBracket (hprefixed : Prefixed partials a a')
    (hbracket : a.bracket = some (place, options))
    (hbracket' : a'.bracket = some (place', options)) (optional : Bool) :
    Prefixed partials (a.closeBracket options optional) (a'.closeBracket options optional) := by
  refine ⟨hprefixed.quote, rfl, fun _ => rfl, ?_⟩
  rw [Position.texts_closeBracket hbracket', Position.texts_closeBracket hbracket,
    hprefixed.pending_eq hbracket, hprefixed.texts, extend_extend]

end Prefixed

/-- What a step does to a position does not depend on the texts before it. -/
theorem Step.prefixed (hstep : Step a part [] b) (hprefixed : Prefixed partials a a') :
    ∃ b', Step a' part [] b' ∧ Prefixed partials b b' := by
  cases hstep with
  | quote => exact ⟨_, .quote, hprefixed.toggleQuote.advance _⟩
  | quoted hquote hc =>
      exact ⟨_, .quoted (hprefixed.quote.trans hquote) hc, (hprefixed.append _).advance _⟩
  | plain hquote hc =>
      exact ⟨_, .plain (hprefixed.quote_eq_none hquote) hc, (hprefixed.append _).advance _⟩
  | star hquote => exact ⟨_, .star (hprefixed.quote_eq_none hquote), hprefixed.advance _⟩
  | openBracket hquote hbracket =>
      exact ⟨_, .openBracket (hprefixed.quote_eq_none hquote)
        (hprefixed.bracket_eq_none hbracket), (hprefixed.openBracket hbracket).advance _⟩
  | nextOption hquote hbracket =>
      obtain ⟨place', hbracket'⟩ := hprefixed.bracket_eq_some hbracket
      exact ⟨_, .nextOption (hprefixed.quote_eq_none hquote) hbracket',
        (hprefixed.nextOption hbracket hbracket').advance _⟩
  | closeBracket hquote hbracket optional =>
      obtain ⟨place', hbracket'⟩ := hprefixed.bracket_eq_some hbracket
      exact ⟨_, .closeBracket (hprefixed.quote_eq_none hquote) hbracket' optional,
        (hprefixed.closeBracket hbracket hbracket' optional).advance _⟩

theorem Steps.prefixed (hsteps : Steps a text [] b) (hprefixed : Prefixed partials a a') :
    ∃ b', Steps a' text [] b' ∧ Prefixed partials b b' := by
  -- No step of the run finishes an alternative, since the run finishes none.
  generalize hdone : ([] : List (List Segment)) = done at hsteps
  induction hsteps generalizing a' with
  | refl => exact ⟨a', .refl, hprefixed⟩
  | step hstep hapart hsteps ih =>
      obtain ⟨rfl, rfl⟩ := List.append_eq_nil_iff.mp hdone.symm
      obtain ⟨middle, hstep', hmiddle⟩ := hstep.prefixed hprefixed
      obtain ⟨b', hsteps', hb⟩ := ih hmiddle rfl
      refine ⟨b', .step hstep' (fun hquote => hapart ?_) hsteps', hb⟩
      simpa [hquote] using hprefixed.quote

/-! ## Parts of one alternative -/

/-- A part of a search string stands for some texts: read outside quotes and brackets, it
goes on every text so far with each of them. -/
def StandsFor (part : List Char) (choices : List (List Char)) : Prop :=
  ∀ a : Position, a.quote = none → a.bracket = none →
    ∃ b, Steps a part [] b ∧ b.quote = none ∧ b.bracket = none ∧
      b.texts = extend a.texts (.options choices)

theorem StandsFor.steps_start (hpart : StandsFor part choices) (offset : Nat) :
    ∃ b, Steps (.start offset) part [] b ∧ b.quote = none ∧ b.bracket = none ∧
      product b.flushed = choices := by
  obtain ⟨b, hsteps, hquote, hbracket, htexts⟩ := hpart (.start offset) rfl rfl
  have hstart : (Position.start offset).texts = [[]] := rfl
  rw [hstart, nil_extend, Segment.choices] at htexts
  refine ⟨b, hsteps, hquote, hbracket, ?_⟩
  simpa only [Position.texts, hbracket] using htexts

theorem StandsFor.scan_eq (hpart : StandsFor part choices) :
    ∃ segments, scan part = .ok [segments] ∧ product segments = choices := by
  obtain ⟨b, hsteps, hquote, hbracket, hproduct⟩ := hpart.steps_start 0
  exact ⟨b.flushed, scanFrom_eq_ok_iff.mpr ⟨[], b, hsteps, hquote, hbracket, rfl⟩, hproduct⟩

/-- An accepted search string of a single alternative stands for the texts it expands to. -/
theorem standsFor_of_scan {alternatives : List (List Segment)}
    (hscan : scan text = .ok alternatives) (hcommas : outerCommas false false text = 0) :
    ∃ segments, alternatives = [segments] ∧ StandsFor text (product segments) := by
  obtain ⟨done, b, hsteps, hquote, hbracket, halternatives⟩ := scanFrom_eq_ok_iff.mp hscan
  obtain rfl : done = [] := List.eq_nil_of_length_eq_zero (hsteps.length_done.trans hcommas)
  have htexts : b.texts = product b.flushed := by simp only [Position.texts, hbracket]
  refine ⟨b.flushed, halternatives, fun a hquote' hbracket' => ?_⟩
  rw [← htexts]
  -- Any other position is like the start, with its own texts before the empty one.
  have hstart : Prefixed a.texts (.start 0) a := by
    refine ⟨by simp [Position.start, hquote'], by simp [Position.start, hbracket'], ?_, ?_⟩
    · simp [Position.start]
    · simp [Position.texts, Position.start, Position.flushed, product, extend, Segment.choices]
  obtain ⟨b', hsteps', hprefixed⟩ := hsteps.prefixed hstart
  exact ⟨b', hsteps', hprefixed.quote_eq_none hquote, hprefixed.bracket_eq_none hbracket,
    hprefixed.texts⟩

/-- Parts in a row stand for the products of what they stand for. -/
theorem StandsFor.append (hpart : StandsFor part choices) (hrest : StandsFor rest others)
    (hstar : rest.head? ≠ some '*') :
    StandsFor (part ++ rest) (extend choices (.options others)) := by
  intro a hquote hbracket
  obtain ⟨b, hsteps, hquote, hbracket, htexts⟩ := hpart a hquote hbracket
  obtain ⟨c, hsteps', hquote', hbracket', htexts'⟩ := hrest b hquote hbracket
  refine ⟨c, hsteps.trans hsteps' hstar, hquote', hbracket', ?_⟩
  rw [htexts', htexts, extend_extend]

theorem standsFor_plain (hplain : ∀ c ∈ text, c ∉ marks) : StandsFor text [text] :=
  fun _ hquote hbracket => ⟨_, .plain hquote hplain, hquote, hbracket,
    Position.texts_append hbracket text⟩

section Options

variable {place : Nat} {before options : List (List Char)} {option : List Char}

theorem steps_option (hquote : a.quote = none) (hbracket : a.bracket = some (place, before))
    (hpending : a.pending = []) (hplain : ∀ c ∈ option, c ∉ marks) :
    ∃ b, Steps a option [] b ∧ b.quote = none ∧ b.bracket = some (place, before) ∧
      b.pending = option ∧ b.texts = a.texts := by
  refine ⟨_, .plain hquote hplain, hquote, hbracket, ?_, ?_⟩
  · simp [Position.advance, Position.append, hpending]
  · exact Position.texts_append_inside hbracket option

/-- Options and the closing bracket after them go on every text so far with each option. -/
theorem steps_options (hquote : a.quote = none) (hbracket : a.bracket = some (place, before))
    (hpending : a.pending = [])
    (hplain : ∀ text ∈ option :: options, ∀ c ∈ text, c ∉ marks) (optional : Bool) :
    ∃ b, Steps a ([','].intercalate (option :: options) ++ closing optional) [] b ∧
      b.quote = none ∧ b.bracket = none ∧
      b.texts = extend a.texts
        (.options (before ++ option :: options ++ if optional then [[]] else [])) := by
  -- An option is pending until the comma or the bracket after it is read.
  induction options generalizing a before option with
  | nil =>
      obtain ⟨b, hoption, hquote, hbracket, hpending, htexts⟩ :=
        steps_option hquote hbracket hpending (hplain option List.mem_cons_self)
      have hclose := Step.single (.closeBracket hquote hbracket optional)
      rw [List.intercalate_singleton]
      refine ⟨_, hoption.trans hclose (by simp [closing]), hquote, rfl, ?_⟩
      rw [Position.texts_advance, Position.texts_closeBracket hbracket, htexts, hpending]
  | cons next options ih =>
      obtain ⟨hoption, hothers⟩ := List.forall_mem_cons.mp hplain
      obtain ⟨b, hsteps, hquote, hbracket, hpending, htexts⟩ :=
        steps_option hquote hbracket hpending hoption
      have hcomma := Step.nextOption hquote hbracket
      obtain ⟨c, hrest, hquote, hbracket', htexts'⟩ :=
        ih (a := (b.nextOption place before).advance (Text.byteLength ',')) hquote rfl rfl hothers
      have hmore := Steps.step hcomma (.of_ne (by decide)) hrest
      rw [List.intercalate_cons_cons, List.append_assoc, List.append_assoc]
      refine ⟨c, hsteps.trans hmore (by simp), hquote, hbracket', ?_⟩
      rw [htexts', Position.texts_advance, Position.texts_nextOption hbracket, htexts, hpending]
      simp

/-- Brackets stand for their options, and for the empty text with a star after them. -/
theorem standsFor_brackets (hoptions : options ≠ [])
    (hplain : ∀ text ∈ options, ∀ c ∈ text, c ∉ marks) (optional : Bool) :
    StandsFor ('(' :: ([','].intercalate options ++ closing optional))
      (options ++ if optional then [[]] else []) := by
  obtain ⟨option, others, rfl⟩ := List.exists_cons_of_ne_nil hoptions
  intro a hquote hbracket
  have hopen := Step.openBracket hquote hbracket
  obtain ⟨b, hsteps, hquote, hbracket', htexts⟩ :=
    steps_options (a := a.openBracket.advance (Text.byteLength '(')) hquote rfl rfl hplain optional
  refine ⟨b, .step hopen (.of_ne (by decide)) hsteps, hquote, hbracket', ?_⟩
  rw [htexts, Position.texts_advance, Position.texts_openBracket hbracket, List.nil_append]

end Options

/-! ## Options one by one -/

/-- Texts around options come to the same, up to order, as these texts around each option. -/
theorem extend_options_perm (partials options others : List (List Char)) :
    (extend partials (.options (extend options (.options others)))).Perm
      (options.flatMap fun option =>
        extend partials (.options (extend [option] (.options others)))) := by
  induction options with
  | nil => simp [extend, Segment.choices]
  | cons option options ih =>
      have hsplit : (extend (option :: options) (.options others)).Perm
          (extend [option] (.options others) ++ extend options (.options others)) := by
        simpa [extend, Segment.choices] using
          (List.flatMap_append_perm others (fun choice => [option ++ choice])
            (fun choice => options.map (· ++ choice))).symm
      -- The texts before go on each of the two parts by themselves.
      have hparts := hsplit.flatMap_right fun choice => partials.map (· ++ choice)
      rw [List.flatMap_append] at hparts
      rw [List.flatMap_cons]
      exact hparts.trans (ih.append_left _)

end DocStore.Search
