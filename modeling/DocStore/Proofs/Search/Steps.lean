import DocStore.Search.Scan

/-!
# Steps of the scanner

What the scanner does with the next characters, as a relation between positions, and the
runs that such steps make up. A search string is accepted exactly when a run reads all of
it and ends outside quotes and brackets, so what every step preserves holds of every
accepted string.
-/

namespace DocStore.Search

/-- The characters with a meaning of their own. -/
def marks : List Char := ['"', '(', ')', ',', '*']

/-- What closes a bracket. -/
def closing (optional : Bool) : List Char :=
  ')' :: if optional then ['*'] else []

/-- The scanner reads a part of a search string between two positions, and finishes some
alternatives by it. -/
inductive Step : Position → List Char → List (List Segment) → Position → Prop
  | quote {a} : Step a ['"'] [] (a.toggleQuote.advance (Text.byteLength '"'))
  | quoted {a c} (hquote : a.quote.isSome = true) (hc : c ≠ '"') :
      Step a [c] [] ((a.append (quotedChar c)).advance (Text.byteLength c))
  | plain {a c} (hquote : a.quote = none) (hc : c ∉ marks) :
      Step a [c] [] ((a.append [c]).advance (Text.byteLength c))
  | star {a} (hquote : a.quote = none) : Step a ['*'] [] (a.advance (Text.byteLength '*'))
  | comma {a} (hquote : a.quote = none) (hbracket : a.bracket = none) :
      Step a [','] [a.flushed] (.start (a.offset + Text.byteLength ','))
  | openBracket {a} (hquote : a.quote = none) (hbracket : a.bracket = none) :
      Step a ['('] [] (a.openBracket.advance (Text.byteLength '('))
  | nextOption {a place options} (hquote : a.quote = none)
      (hbracket : a.bracket = some (place, options)) :
      Step a [','] [] ((a.nextOption place options).advance (Text.byteLength ','))
  | closeBracket {a place options} (hquote : a.quote = none)
      (hbracket : a.bracket = some (place, options)) (optional : Bool) :
      Step a (closing optional) []
        ((a.closeBracket options optional).advance
          (Text.byteLength ')' + if optional then 1 else 0))

/-- A part ends where what follows begins: no closing bracket is parted from its star. -/
def Apart (a : Position) (part rest : List Char) : Prop :=
  a.quote = none → part = [')'] → rest.head? ≠ some '*'

/-- The scanner reads a text step by step. -/
inductive Steps : Position → List Char → List (List Segment) → Position → Prop
  | refl {a} : Steps a [] [] a
  | step {a b c part rest done more} (hstep : Step a part done b)
      (hapart : Apart a part rest) (hsteps : Steps b rest more c) :
      Steps a (part ++ rest) (done ++ more) c

/-- The scanner reads a text to its end, outside quotes and brackets, as these alternatives. -/
def Accepts (a : Position) (text : List Char) (alternatives : List (List Segment)) : Prop :=
  ∃ done b, Steps a text done b ∧ b.quote = none ∧ b.bracket = none ∧
    alternatives = done ++ [b.flushed]

/-- The scanner stops: nothing is left to read, or what is left cannot be read from here. -/
inductive Position.Stops (a : Position) :
    List Char → Except SearchFault (List (List Segment)) → Prop
  | finished (hquote : a.quote = none) (hbracket : a.bracket = none) : Stops a [] (.ok [a.flushed])
  | unterminatedQuote {place} (hquote : a.quote = some place) :
      Stops a [] (.error (.unterminatedQuote place))
  | unclosedBracket {place options} (hquote : a.quote = none)
      (hbracket : a.bracket = some (place, options)) :
      Stops a [] (.error (.unclosedBracket place))
  | nestedBracket {rest opened} (hquote : a.quote = none) (hbracket : a.bracket = some opened) :
      Stops a ('(' :: rest) (.error (.nestedBracket a.offset))
  | unexpectedClosingBracket {rest} (hquote : a.quote = none) (hbracket : a.bracket = none) :
      Stops a (')' :: rest) (.error (.unexpectedClosingBracket a.offset))

/-- The scanner reads a text up to where it stops, with the alternatives finished until then
before those of the end. -/
def Scans (a : Position) (text : List Char)
    (outcome : Except SearchFault (List (List Segment))) : Prop :=
  ∃ part rest done b stopped, text = part ++ rest ∧ Steps a part done b ∧
    b.Stops rest stopped ∧ outcome = stopped.map (done ++ ·)

variable {a b c : Position} {text part rest : List Char}
  {done more alternatives : List (List Segment)} {ch : Char} {fault : SearchFault}
  {outcome : Except SearchFault (List (List Segment))}

theorem notMem_marks : ch ∉ marks ↔ ch ≠ '"' ∧ ch ≠ '(' ∧ ch ≠ ')' ∧ ch ≠ ',' ∧ ch ≠ '*' := by
  simp [marks]

theorem Apart.of_ne (hpart : part ≠ [')']) : Apart a part rest :=
  fun _ h => absurd h hpart

theorem Apart.of_head (hrest : rest.head? ≠ some '*') : Apart a part rest :=
  fun _ _ => hrest

theorem Apart.append {after : List Char} (hapart : Apart a part rest)
    (hafter : after.head? ≠ some '*') : Apart a part (rest ++ after) := by
  intro hquote hpart
  cases rest with
  | nil => exact hafter
  | cons ch rest => exact hapart hquote hpart

theorem Step.scanFrom_eq (hstep : Step a part done b) (hapart : Apart a part rest) :
    scanFrom a (part ++ rest) = (scanFrom b rest).map (done ++ ·) := by
  have hmap (scanned : Except SearchFault (List (List Segment))) :
      scanned.map ([] ++ ·) = scanned := by
    cases scanned <;> rfl
  cases hstep with
  | quote =>
      rw [hmap, List.cons_append, scanFrom.eq_def]
      rfl
  | quoted hquote hc =>
      rw [hmap, List.cons_append, scanFrom.eq_def]
      simp [hquote, hc]
  | plain hquote hc =>
      obtain ⟨hquotation, hopen, hclose, hcomma, hasterisk⟩ := notMem_marks.mp hc
      rw [hmap, List.cons_append, scanFrom.eq_def]
      cases hbracket : a.bracket with
      | none => simp [hquote, hquotation]
      | some opened => simp [hquote, hquotation]
  | star hquote =>
      rw [hmap, List.cons_append, scanFrom.eq_def]
      cases hbracket : a.bracket with
      | none => simp [hquote]
      | some opened => simp [hquote]
  | comma hquote hbracket =>
      rw [List.cons_append, scanFrom.eq_def]
      simp [hquote, hbracket]
      split <;> simp [*, Except.map]
  | openBracket hquote hbracket =>
      rw [hmap, List.cons_append, scanFrom.eq_def]
      simp [hquote, hbracket]
  | nextOption hquote hbracket =>
      rw [hmap, List.cons_append, scanFrom.eq_def]
      simp [hquote, hbracket]
  | closeBracket hquote hbracket optional =>
      rw [hmap, closing, List.cons_append, scanFrom.eq_def]
      cases optional with
      | true => simp [hquote, hbracket]
      | false =>
          -- What follows does not begin with a star, so the bracket takes none along.
          have hnone (more : List Char) : rest ≠ '*' :: more := by
            rintro rfl
            exact hapart hquote rfl rfl
          cases rest with
          | nil => simp [hquote, hbracket]
          | cons next rest =>
              simp [hquote, hbracket]

theorem Accepts.step (hstep : Step a part done b) (hapart : Apart a part rest)
    (haccepts : Accepts b rest alternatives) :
    Accepts a (part ++ rest) (done ++ alternatives) := by
  obtain ⟨more, c, hsteps, hquote, hbracket, rfl⟩ := haccepts
  exact ⟨done ++ more, c, .step hstep hapart hsteps, hquote, hbracket,
    (List.append_assoc ..).symm⟩

/-! ## Scans as runs -/

theorem stops_finish (a : Position) : a.Stops [] a.finish := by
  unfold Position.finish
  split
  next hquote => exact .unterminatedQuote hquote
  next hquote hbracket => exact .unclosedBracket hquote hbracket
  next hquote hbracket => exact .finished hquote hbracket

theorem Position.Stops.scanFrom_eq (hstops : a.Stops text outcome) :
    scanFrom a text = outcome := by
  cases hstops with
  | finished hquote hbracket => simp [scanFrom, Position.finish, hquote, hbracket]
  | unterminatedQuote hquote => simp [scanFrom, Position.finish, hquote]
  | unclosedBracket hquote hbracket => simp [scanFrom, Position.finish, hquote, hbracket]
  | nestedBracket hquote hbracket =>
      rw [scanFrom.eq_def]
      simp [hquote, hbracket]
  | unexpectedClosingBracket hquote hbracket =>
      rw [scanFrom.eq_def]
      simp [hquote, hbracket]

theorem Position.Stops.head_ne (hstops : a.Stops rest outcome) : rest.head? ≠ some '*' := by
  cases hstops <;> simp

theorem map_nil_append (outcome : Except SearchFault (List (List Segment))) :
    outcome.map ([] ++ ·) = outcome := by
  cases outcome <;> rfl

theorem Position.Stops.scans (hstops : a.Stops text outcome) : Scans a text outcome :=
  ⟨[], text, [], a, outcome, rfl, .refl, hstops, (map_nil_append outcome).symm⟩

theorem Scans.step (hstep : Step a part done b) (hapart : Apart a part rest)
    (hscans : Scans b rest outcome) : Scans a (part ++ rest) (outcome.map (done ++ ·)) := by
  obtain ⟨read, left, more, c, stopped, rfl, hsteps, hstops, rfl⟩ := hscans
  have hapart' : Apart a part read := by
    intro hquote hpart hhead
    cases read with
    | nil => simp at hhead
    | cons ch read => exact hapart hquote hpart hhead
  refine ⟨part ++ read, left, done ++ more, c, stopped, (List.append_assoc ..).symm,
    .step hstep hapart' hsteps, hstops, ?_⟩
  cases stopped <;> simp [Except.map]

/-- A step that finishes no alternative changes nothing about what the scan comes to. -/
theorem Scans.quiet (hstep : Step a part [] b) (hapart : Apart a part rest)
    (hscans : Scans b rest outcome) : Scans a (part ++ rest) outcome := by
  have hstep' := hscans.step hstep hapart
  rwa [map_nil_append] at hstep'

theorem scans_scanFrom (a : Position) (text : List Char) : Scans a text (scanFrom a text) := by
  -- The cases are the branches of the scanner, in its order.
  fun_induction scanFrom a text
  case case1 a => exact (stops_finish a).scans
  -- A quote, and a character between quotes.
  case case2 ih => exact ih.quiet .quote (.of_ne (by decide))
  case case3 hc hquote ih =>
    refine ih.quiet (.quoted hquote hc) (fun hnone => ?_)
    simp [hnone] at hquote
  -- Outside brackets: an opening bracket, a closing one, a comma, a star, a plain character.
  case case4 hquote hbracket _ _ ih =>
    exact ih.quiet (.openBracket (by simpa using hquote) hbracket) (.of_ne (by decide))
  case case5 hquote hbracket _ =>
    exact (Position.Stops.unexpectedClosingBracket (by simpa using hquote) hbracket).scans
  case case6 hquote hbracket _ _ _ hrest ih =>
    rw [hrest] at ih
    exact ih.step (.comma (by simpa using hquote) hbracket) (.of_ne (by decide))
  case case7 hquote hbracket _ _ _ hrest ih =>
    rw [hrest] at ih
    exact ih.step (.comma (by simpa using hquote) hbracket) (.of_ne (by decide))
  case case8 hquote _ _ _ ih =>
    exact ih.quiet (.star (by simpa using hquote)) (.of_ne (by decide))
  case case9 hquote _ _ hopen hclose hcomma hasterisk _ hquotation ih =>
    have hplain := notMem_marks.mpr ⟨hquotation, hopen, hclose, hcomma, hasterisk⟩
    exact ih.quiet (.plain (by simpa using hquote) hplain) (.of_ne (by simpa using hclose))
  -- Inside brackets, where a closing bracket looks for a star after it.
  case case10 hquote _ _ hbracket _ =>
    exact (Position.Stops.nestedBracket (by simpa using hquote) hbracket).scans
  case case11 hquote _ _ hbracket _ _ _ ih =>
    exact ih.quiet (.closeBracket (by simpa using hquote) hbracket true) (.of_ne (by decide))
  case case12 hquote _ _ hbracket rest hrest _ _ ih =>
    refine ih.quiet (.closeBracket (by simpa using hquote) hbracket false)
      (.of_head fun hhead => ?_)
    obtain ⟨more, hmore⟩ := List.head?_eq_some_iff.mp hhead
    exact hrest more hmore
  case case13 hquote _ _ hbracket _ _ ih =>
    exact ih.quiet (.nextOption (by simpa using hquote) hbracket) (.of_ne (by decide))
  case case14 hquote _ _ _ _ _ ih =>
    exact ih.quiet (.star (by simpa using hquote)) (.of_ne (by decide))
  case case15 hquote _ _ _ _ hopen hclose hcomma hasterisk _ hquotation ih =>
    have hplain := notMem_marks.mpr ⟨hquotation, hopen, hclose, hcomma, hasterisk⟩
    exact ih.quiet (.plain (by simpa using hquote) hplain) (.of_ne (by simpa using hclose))

/-- After a run, the scan goes on from where the run has come to. -/
theorem Steps.scanFrom_eq (hsteps : Steps a part done b) (hrest : rest.head? ≠ some '*') :
    scanFrom a (part ++ rest) = (scanFrom b rest).map (done ++ ·) := by
  induction hsteps with
  | refl => rw [map_nil_append, List.nil_append]
  | @step _ _ c _ _ _ _ hstep hapart hsteps ih =>
      rw [List.append_assoc, hstep.scanFrom_eq (hapart.append hrest), ih]
      cases scanFrom c rest <;> simp [Except.map]

theorem Scans.scanFrom_eq (hscans : Scans a text outcome) : scanFrom a text = outcome := by
  obtain ⟨part, rest, done, b, stopped, rfl, hsteps, hstops, rfl⟩ := hscans
  rw [hsteps.scanFrom_eq hstops.head_ne, hstops.scanFrom_eq]

/-- What a scan comes to is where the run along the text stops. -/
theorem scanFrom_eq_iff : scanFrom a text = outcome ↔ Scans a text outcome :=
  ⟨fun hscan => hscan ▸ scans_scanFrom a text, Scans.scanFrom_eq⟩

/-- A scan succeeds exactly when a run reads the whole text. -/
theorem scanFrom_eq_ok_iff :
    scanFrom a text = .ok alternatives ↔ Accepts a text alternatives := by
  rw [scanFrom_eq_iff]
  constructor
  · rintro ⟨part, rest, done, b, stopped, rfl, hsteps, hstops, houtcome⟩
    cases hstops with
    | finished hquote hbracket =>
        rw [List.append_nil]
        exact ⟨done, b, hsteps, hquote, hbracket, Except.ok.inj houtcome⟩
    | _ => cases houtcome
  · rintro ⟨done, b, hsteps, hquote, hbracket, rfl⟩
    exact ⟨text, [], done, b, _, (List.append_nil _).symm, hsteps, .finished hquote hbracket, rfl⟩

theorem Accepts.scanFrom_eq (haccepts : Accepts a text alternatives) :
    scanFrom a text = .ok alternatives :=
  scanFrom_eq_ok_iff.mpr haccepts

/-! ## Longer runs -/

theorem Step.single (hstep : Step a part done b) : Steps a part done b := by
  simpa using Steps.step hstep (.of_head (by simp)) .refl

theorem Steps.trans {after : List Char} (hsteps : Steps a text done b)
    (hmore : Steps b after more c) (hafter : after.head? ≠ some '*') :
    Steps a (text ++ after) (done ++ more) c := by
  induction hsteps with
  | refl => exact hmore
  | step hstep hapart hsteps ih =>
      rw [List.append_assoc, List.append_assoc]
      exact .step hstep (hapart.append hafter) (ih hmore)

theorem Accepts.after {after : List Char} (haccepts : Accepts b after alternatives)
    (hsteps : Steps a text done b) (hafter : after.head? ≠ some '*') :
    Accepts a (text ++ after) (done ++ alternatives) := by
  obtain ⟨more, c, hmore, hquote, hbracket, rfl⟩ := haccepts
  exact ⟨done ++ more, c, hsteps.trans hmore hafter, hquote, hbracket,
    (List.append_assoc ..).symm⟩

theorem Steps.plain (hquote : a.quote = none) (hplain : ∀ ch ∈ text, ch ∉ marks) :
    Steps a text [] ((a.append text).advance (Text.encodeUtf8 text).length) := by
  induction text generalizing a with
  | nil => simpa [Position.append, Position.advance, Text.encodeUtf8] using Steps.refl
  | cons ch text ih =>
      have hch := hplain ch List.mem_cons_self
      have hapart : Apart a [ch] text := .of_ne (by simpa using (notMem_marks.mp hch).2.2.1)
      have hrest := ih (a := (a.append [ch]).advance (Text.byteLength ch)) hquote
        fun other hother => hplain other (List.mem_cons_of_mem _ hother)
      simpa [Position.append, Position.advance, Text.encodeUtf8, Text.byteLength,
        Nat.add_assoc] using Steps.step (.plain hquote hch) hapart hrest

/-! ## Alternatives -/

/-- The number of commas outside quotes and brackets, in a text that begins inside of them
or not. -/
def outerCommas (quoted bracketed : Bool) : List Char → Nat
  | [] => 0
  | c :: rest =>
      if c = '"' then outerCommas (!quoted) bracketed rest
      else if quoted then outerCommas true bracketed rest
      else if c = '(' then outerCommas false true rest
      else if c = ')' then outerCommas false false rest
      else if c = ',' ∧ bracketed = false then outerCommas false false rest + 1
      else outerCommas false bracketed rest

theorem Step.outerCommas_append (hstep : Step a part done b) :
    outerCommas a.quote.isSome a.bracket.isSome (part ++ rest) =
      done.length + outerCommas b.quote.isSome b.bracket.isSome rest := by
  cases hstep with
  | quote =>
      cases hquote : a.quote <;>
        simp [outerCommas, Position.toggleQuote, Position.advance, hquote]
  | quoted hquote hc => simp [outerCommas, Position.append, Position.advance, hquote, hc]
  | plain hquote hc =>
      obtain ⟨hquotation, hopen, hclose, hcomma, _⟩ := notMem_marks.mp hc
      simp [outerCommas, Position.append, Position.advance, *]
  | star hquote => simp [outerCommas, Position.advance, hquote]
  | comma hquote hbracket =>
      simp [outerCommas, Position.start, hquote, hbracket, Nat.add_comm]
  | openBracket hquote hbracket =>
      simp [outerCommas, Position.openBracket, Position.advance, hquote]
  | nextOption hquote hbracket =>
      simp [outerCommas, Position.nextOption, Position.advance, hquote, hbracket]
  | closeBracket hquote hbracket optional =>
      cases optional <;>
        simp [outerCommas, closing, Position.closeBracket, Position.advance, hquote]

/-- A comma outside quotes and brackets finishes an alternative, and nothing else does. -/
theorem Steps.length_done (hsteps : Steps a text done b) :
    done.length = outerCommas a.quote.isSome a.bracket.isSome text := by
  induction hsteps with
  | refl => rfl
  | step hstep hapart hsteps ih => rw [hstep.outerCommas_append, List.length_append, ih]

/-! ## Segments -/

/-- Every segment has something to choose from. -/
def Choosable (segments : List Segment) : Prop :=
  ∀ segment ∈ segments, segment.choices ≠ []

theorem Choosable.append_singleton {segments : List Segment} {segment : Segment}
    (hsegments : Choosable segments) (hsegment : segment.choices ≠ []) :
    Choosable (segments ++ [segment]) := by
  intro other hother
  rcases List.mem_append.mp hother with hother | hother
  · exact hsegments other hother
  · exact List.mem_singleton.mp hother ▸ hsegment

theorem Position.choosable_flushed (hsegments : Choosable a.segments) : Choosable a.flushed := by
  unfold Position.flushed
  split
  · exact hsegments
  · exact hsegments.append_singleton (by simp [Segment.choices])

theorem Step.choosable (hstep : Step a part done b) (hsegments : Choosable a.segments) :
    Choosable b.segments ∧ ∀ segments ∈ done, Choosable segments := by
  have hnone : ∀ segments ∈ ([] : List (List Segment)), Choosable segments := by simp
  cases hstep with
  | quote => exact ⟨hsegments, hnone⟩
  | quoted => exact ⟨hsegments, hnone⟩
  | plain => exact ⟨hsegments, hnone⟩
  | star => exact ⟨hsegments, hnone⟩
  | comma =>
      refine ⟨by simp [Choosable, Position.start], ?_⟩
      exact List.forall_mem_singleton.mpr (Position.choosable_flushed hsegments)
  | openBracket => exact ⟨Position.choosable_flushed hsegments, hnone⟩
  | nextOption => exact ⟨hsegments, hnone⟩
  | closeBracket =>
      -- The text before the bracket is an option, even where it is empty.
      exact ⟨hsegments.append_singleton (by simp [Segment.choices]), hnone⟩

theorem Steps.choosable (hsteps : Steps a text done b) (hsegments : Choosable a.segments) :
    Choosable b.segments ∧ ∀ segments ∈ done, Choosable segments := by
  induction hsteps with
  | refl => exact ⟨hsegments, by simp⟩
  | step hstep hapart hsteps ih =>
      obtain ⟨hmiddle, hdone⟩ := hstep.choosable hsegments
      obtain ⟨hend, hmore⟩ := ih hmiddle
      exact ⟨hend, List.forall_mem_append.mpr ⟨hdone, hmore⟩⟩

/-- No group of options that a scan finds is without options. -/
theorem choosable_of_scan (hscan : scan text = .ok alternatives) :
    ∀ segments ∈ alternatives, Choosable segments := by
  obtain ⟨done, b, hsteps, _, _, rfl⟩ := scanFrom_eq_ok_iff.mp hscan
  obtain ⟨hend, hdone⟩ := hsteps.choosable (by simp [Choosable, Position.start])
  have hlast := List.forall_mem_singleton.mpr (Position.choosable_flushed hend)
  exact List.forall_mem_append.mpr ⟨hdone, hlast⟩

end DocStore.Search
