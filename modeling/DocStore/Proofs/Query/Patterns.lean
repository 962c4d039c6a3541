import DocStore.Filter.Matching
import DocStore.Proofs.Query.Meaning
import DocStore.Proofs.Text.Parts

/-!
# What patterns find

A store with native queries looks for the pattern of a clause with an engine for regular
expressions, and this store looks for the text of the condition itself. Of the engine only its
documented behaviour is assumed, and only for patterns made of characters and anchors. There the
two find the same, but for a text at the end of a string that goes on with a line break: the
closing anchor of a pattern holds before the line break, and the end of the string comes after it.
-/

namespace DocStore

namespace Query

/-! ## Reading a pattern -/

/-- A part of a pattern: a character to be found, or an anchor at an end of the string. -/
inductive Part where
  | char (c : Char)
  | start
  | stop
deriving DecidableEq, Repr

/-- The characters that mean something in a pattern, outside a class of characters. -/
def specials : List Char :=
  ['\\', '^', '$', '.', '[', '|', '(', ')', '?', '*', '+', '\x7b']

/-- Does a character stand for itself after a backslash? A letter or a digit may not. -/
def isPunctuation (c : Char) : Bool :=
  c.toNat < 128 && !c.isAlphanum

/-- The parts of a pattern that is made of characters and anchors. -/
def readParts? : List Char → Option (List Part)
  | [] => some []
  | '\\' :: c :: rest =>
      if isPunctuation c then (readParts? rest).map (.char c :: ·) else none
  | '^' :: rest => (readParts? rest).map (.start :: ·)
  | '$' :: rest => (readParts? rest).map (.stop :: ·)
  | c :: rest => if c ∈ specials then none else (readParts? rest).map (.char c :: ·)

/-- Are parts met by what is left of a string, which may be all of it? The closing anchor holds at
the end of the string and before a line break that ends it. -/
def meets : List Part → Bool → List Char → Bool
  | [], _, _ => true
  | .char c :: parts, _, d :: rest => c == d && meets parts false rest
  | .char _ :: _, _, [] => false
  | .start :: parts, whole, rest => whole && meets parts whole rest
  | .stop :: parts, whole, rest => (rest == [] || rest == ['\n']) && meets parts whole rest

/-- Are parts met somewhere in what is left of a string? -/
def meetsSomewhere (parts : List Part) (whole : Bool) : List Char → Bool
  | [] => meets parts whole []
  | c :: rest => meets parts whole (c :: rest) || meetsSomewhere parts false rest

/-- The documented behaviour of an engine on patterns of characters and anchors. -/
def Documented (finds : String → String → Bool) : Prop :=
  ∀ pattern parts, readParts? pattern.toList = some parts →
    ∀ subject, finds pattern subject = meetsSomewhere parts true subject.toList

/-- An engine for patterns of characters and anchors, which finds no other pattern. -/
def plainEngine (pattern subject : String) : Bool :=
  match readParts? pattern.toList with
  | some parts => meetsSomewhere parts true subject.toList
  | none => false

theorem documented_plainEngine : Documented plainEngine := by
  intro pattern parts hparts subject
  rw [plainEngine, hparts]

/-! ## Texts in patterns -/

theorem isPunctuation_of_mem {c : Char} (hc : c ∈ metacharacters) : isPunctuation c = true := by
  have hall : metacharacters.all isPunctuation = true := by decide
  exact List.all_eq_true.mp hall c hc

theorem mem_metacharacters {c : Char} (hc : c ∈ specials) : c ∈ metacharacters := by
  have hall : specials.all (· ∈ metacharacters) = true := by decide
  exact of_decide_eq_true (List.all_eq_true.mp hall c hc)

theorem readParts?_escapeChar (c : Char) (rest : List Char) :
    readParts? (escapeChar c ++ rest) = (readParts? rest).map (.char c :: ·) := by
  unfold escapeChar
  by_cases hc : c ∈ metacharacters
  · rw [if_pos hc]
    simp [readParts?, isPunctuation_of_mem hc]
  · have hspecial : c ∉ specials := mt mem_metacharacters hc
    rw [if_neg hc, List.singleton_append, readParts?, if_neg hspecial]
    -- The character is none of those that are read on their own.
    · rintro d rest rfl
      exact absurd (by decide) hspecial
    · rintro rfl
      exact absurd (by decide) hspecial
    · rintro rfl
      exact absurd (by decide) hspecial

/-- An escaped text is read as its characters. -/
theorem readParts?_escape_append (needle rest : List Char) :
    readParts? (escape needle ++ rest) = (readParts? rest).map (needle.map .char ++ ·) := by
  induction needle with
  | nil => simp [escape]
  | cons c needle ih =>
      have hescape : escape (c :: needle) = escapeChar c ++ escape needle := List.flatMap_cons
      rw [hescape, List.append_assoc, readParts?_escapeChar, ih, Option.map_map]
      rfl

/-! ## Finding a text -/

theorem meets_chars (needle : List Char) (whole : Bool) (text : List Char) :
    meets (needle.map .char) whole text = needle.isPrefixOf text := by
  induction needle generalizing whole text with
  | nil => rfl
  | cons c needle ih =>
      cases text with
      | nil => rfl
      | cons d text => rw [List.map_cons, meets, ih, List.isPrefixOf]

/-- Without an anchor a text is found anywhere. -/
theorem meetsSomewhere_chars (needle : List Char) (whole : Bool) (text : List Char) :
    meetsSomewhere (needle.map .char) whole text = Text.occursIn needle text := by
  induction text generalizing whole with
  | nil =>
      rw [meetsSomewhere, meets_chars]
      cases needle <;> rfl
  | cons d text ih => rw [meetsSomewhere, meets_chars, ih, Text.occursIn]

theorem meetsSomewhere_start_false (parts : List Part) (text : List Char) :
    meetsSomewhere (.start :: parts) false text = false := by
  induction text with
  | nil => rfl
  | cons d text ih => rw [meetsSomewhere, ih, meets, Bool.false_and, Bool.or_false]

/-- After an opening anchor a text is found at the start. -/
theorem meetsSomewhere_start (needle text : List Char) :
    meetsSomewhere (.start :: needle.map .char) true text = needle.isPrefixOf text := by
  cases text with
  | nil => rw [meetsSomewhere, meets, Bool.true_and, meets_chars]
  | cons d text =>
      rw [meetsSomewhere, meetsSomewhere_start_false, Bool.or_false, meets, Bool.true_and,
        meets_chars]

theorem meets_stop_iff {needle : List Char} {whole : Bool} {text : List Char} :
    meets (needle.map .char ++ [.stop]) whole text = true ↔
      text = needle ∨ text = needle ++ ['\n'] := by
  induction needle generalizing whole text with
  | nil => simp [meets]
  | cons c needle ih =>
      cases text with
      | nil => simp [meets]
      | cons d text =>
          rw [List.map_cons, List.cons_append, meets, Bool.and_eq_true, ih, beq_iff_eq]
          simp only [List.cons_append, List.cons.injEq, @eq_comm _ d c]
          exact and_or_left

/-- Before a closing anchor a text is found at the end, or before the line break there. -/
theorem meetsSomewhere_stop_iff {needle : List Char} {whole : Bool} {text : List Char} :
    meetsSomewhere (needle.map .char ++ [.stop]) whole text = true ↔
      needle <:+ text ∨ needle ++ ['\n'] <:+ text := by
  induction text generalizing whole with
  | nil =>
      rw [meetsSomewhere, meets_stop_iff, List.suffix_nil, List.suffix_nil, eq_comm (a := []),
        eq_comm (a := [])]
  | cons d text ih =>
      rw [meetsSomewhere, Bool.or_eq_true, meets_stop_iff, ih, List.suffix_cons_iff,
        List.suffix_cons_iff, eq_comm (a := d :: text), eq_comm (a := d :: text)]
      exact or_or_or_comm

end Query

namespace Operator

/-- The parts of the pattern by which an operator finds a text. -/
def parts (op : Operator) (needle : List Char) : List Query.Part :=
  match op with
  | starts => .start :: needle.map .char
  | ends => needle.map .char ++ [.stop]
  | _ => needle.map .char

theorem readParts?_pattern (op : Operator) (needle : String) :
    Query.readParts? (Query.pattern op needle).toList = some (op.parts needle.toList) := by
  have hread := Query.readParts?_escape_append needle.toList
  cases op with
  | starts => simpa [Query.pattern, Query.readParts?, parts] using hread []
  | ends => simpa [Query.pattern, Query.readParts?, parts] using hread ['$']
  | _ => simpa [Query.pattern, Query.readParts?, parts] using hread []

/-- A string ends with a text and a line break, and does not end with the text itself. -/
def StopsShort (op : Operator) (needle subject : List Char) : Prop :=
  op = .ends ∧ needle ++ ['\n'] <:+ subject ∧ ¬ needle <:+ subject

/-- The pattern of an operator is found where the operator finds the text, and before a line break
that ends the string. -/
theorem meetsSomewhere_parts_iff {op : Operator} (hpattern : op.isPattern = true)
    {needle subject : List Char} :
    Query.meetsSomewhere (op.parts needle) true subject = true ↔
      op.findsIn needle subject = true ∨ op.StopsShort needle subject := by
  cases op with
  | contains => simp [parts, Query.meetsSomewhere_chars, findsIn, StopsShort]
  | starts => simp [parts, Query.meetsSomewhere_start, findsIn, StopsShort]
  | ends =>
      simp only [parts, Query.meetsSomewhere_stop_iff, findsIn, List.isSuffixOf_iff_suffix,
        StopsShort, true_and]
      tauto
  | _ => cases hpattern

/-- An engine finds the pattern of an operator just where the pattern is. -/
theorem finds_pattern_iff {finds : String → String → Bool} (hfinds : Query.Documented finds)
    {op : Operator} (hpattern : op.isPattern = true) {needle subject : String} :
    finds (Query.pattern op needle) subject = true ↔
      op.findsIn needle.toList subject.toList = true ∨
        op.StopsShort needle.toList subject.toList := by
  rw [hfinds _ _ (readParts?_pattern op needle), meetsSomewhere_parts_iff hpattern]

theorem finds_pattern_of_stopsShort {finds : String → String → Bool}
    (hfinds : Query.Documented finds) {op : Operator} {needle subject : String}
    (hstops : op.StopsShort needle.toList subject.toList) :
    finds (Query.pattern op needle) subject = !op.findsIn needle.toList subject.toList := by
  have hpattern : op.isPattern = true := by rw [hstops.1]; rfl
  have hends : op.findsIn needle.toList subject.toList = false := by
    rw [hstops.1, ← Bool.not_eq_true, findsIn, List.isSuffixOf_iff_suffix]
    exact hstops.2.2
  rw [hends, Bool.not_false, finds_pattern_iff hfinds hpattern]
  exact .inr hstops

theorem finds_pattern_of_not_stopsShort {finds : String → String → Bool}
    (hfinds : Query.Documented finds) {op : Operator} (hpattern : op.isPattern = true)
    {needle subject : String} (hstops : ¬ op.StopsShort needle.toList subject.toList) :
    finds (Query.pattern op needle) subject = op.findsIn needle.toList subject.toList := by
  rw [Bool.eq_iff_iff, finds_pattern_iff hfinds hpattern, or_iff_left hstops]

end Operator

/-! ## Verdicts -/

/-- What a store with an engine for patterns makes of a clause on a field that holds a string, for
clauses that look for a pattern. -/
def Query.verdict? (finds : String → String → Bool) (subject : String)
    (clause : String × Value) : Option Bool :=
  match clause with
  | ("$regex", .string pattern) => some (finds pattern subject)
  | ("$not", .document [("$regex", .string pattern)]) => some (!finds pattern subject)
  | _ => none

namespace Condition

variable {finds : String → String → Bool} {condition : Condition} {needle subject : String}

section Text

variable (hpattern : condition.op.isPattern = true) (hvalue : condition.value = .string needle)

include hpattern hvalue

theorem clause_of_text :
    condition.clause = .ok (patternClause condition.op needle condition.negated) := by
  rw [clause_of_isPattern hpattern, hvalue]

theorem holds_of_text :
    condition.holds (some (.string subject)) =
      (condition.op.findsIn needle.toList subject.toList != condition.negated) := by
  obtain ⟨op, value, negated⟩ := condition
  obtain rfl : value = .string needle := hvalue
  cases op with
  | contains | starts | ends => simp [holds, patternHolds, Value.anyPart]
  | _ => cases hpattern

end Text

theorem clause_of_unfit (hunfit : condition.Unfit) :
    condition.clause =
      .error (.invalidQuery (.patternNotString condition.op condition.value)) := by
  rw [clause_of_isPattern hunfit.1]
  split
  · next hvalue => exact absurd hvalue (hunfit.2 _)
  · rfl

theorem holds_of_unfit (hunfit : condition.Unfit) (field : Option Value) :
    condition.holds field = condition.negated := by
  obtain ⟨hpattern, hvalue⟩ := hunfit
  obtain ⟨op, value, negated⟩ := condition
  have hnot : patternHolds op field value = false := by
    unfold patternHolds
    split
    · next needle => exact absurd rfl (hvalue needle)
    · rfl
  cases op with
  | contains | starts | ends => rw [holds, hnot, Bool.false_bne]
  | _ => cases hpattern

theorem verdict?_patternClause (op : Operator) (negated : Bool) :
    Query.verdict? finds subject (patternClause op needle negated) =
      some (finds (Query.pattern op needle) subject != negated) := by
  cases negated with
  | false => simp [patternClause, Query.verdict?]
  | true => simp [patternClause, Query.verdict?]

/-- The two stores agree on a condition. This one refuses none, so the other has to have a clause
for it, and the clause gives the verdict of the condition on a string. -/
def AgreesOn (finds : String → String → Bool) (condition : Condition) (subject : String) : Prop :=
  ∃ clause, condition.clause = .ok clause ∧
    Query.verdict? finds subject clause = some (condition.holds (some (.string subject)))

/-- The two stores agree on a pattern if it looks for a text, unless the string goes on with a line
break after the text: then their verdicts are opposite. A pattern without a text is refused by the
one and met by no string, or by every string if it is negated, in the other. -/
theorem pattern_verdicts_agree_iff (hfinds : Query.Documented finds)
    (hpattern : condition.op.isPattern = true) (subject : String) :
    (condition.AgreesOn finds subject ↔ ∃ needle, condition.value = .string needle ∧
      ¬ condition.op.StopsShort needle.toList subject.toList) ∧
    (∀ needle, condition.value = .string needle →
      condition.op.StopsShort needle.toList subject.toList →
        ∃ clause, condition.clause = .ok clause ∧ Query.verdict? finds subject clause =
          some (!condition.holds (some (.string subject)))) ∧
    (condition.Unfit →
      condition.clause =
        .error (.invalidQuery (.patternNotString condition.op condition.value)) ∧
      condition.holds (some (.string subject)) = condition.negated) := by
  refine ⟨⟨?_, ?_⟩, ?_, ?_⟩
  · rintro ⟨clause, hclause, hagree⟩
    have hfit : ∃ needle, condition.value = .string needle := by
      by_contra hnone
      exact exists_clause_iff.mp ⟨clause, hclause⟩ ⟨hpattern, not_exists.mp hnone⟩
    obtain ⟨needle, hvalue⟩ := hfit
    refine ⟨needle, hvalue, fun hstops => ?_⟩
    obtain rfl := Except.ok.inj ((clause_of_text hpattern hvalue).symm.trans hclause)
    rw [verdict?_patternClause, holds_of_text hpattern hvalue,
      Operator.finds_pattern_of_stopsShort hfinds hstops] at hagree
    simp at hagree
  · rintro ⟨needle, hvalue, hstops⟩
    refine ⟨_, clause_of_text hpattern hvalue, ?_⟩
    rw [verdict?_patternClause, holds_of_text hpattern hvalue,
      Operator.finds_pattern_of_not_stopsShort hfinds hpattern hstops]
  · intro needle hvalue hstops
    refine ⟨_, clause_of_text hpattern hvalue, ?_⟩
    rw [verdict?_patternClause, holds_of_text hpattern hvalue,
      Operator.finds_pattern_of_stopsShort hfinds hstops, Bool.not_bne]
  · exact fun hunfit => ⟨clause_of_unfit hunfit, holds_of_unfit hunfit _⟩

/-- No line break follows the name at the end of the path, so both stores leave the path out. -/
theorem pattern_verdicts_agree_path :
    AgreesOn Query.plainEngine ⟨.ends, .string "a.rs", true⟩ "src/a.rs" := by
  refine (pattern_verdicts_agree_iff Query.documented_plainEngine rfl "src/a.rs").1.mpr
    ⟨"a.rs", rfl, ?_⟩
  unfold Operator.StopsShort
  decide

/-- A line that ends with a line break is found by its last letter in the one store and not in the
other, and a number is a pattern in the one and no pattern in the other. -/
theorem pattern_verdicts_differ :
    ¬ AgreesOn Query.plainEngine (.of .ends (.string "b")) "b\n" ∧
      ¬ AgreesOn Query.plainEngine (.of .contains (.int32 3)) "x3" := by
  constructor
  · rintro ⟨clause, hclause, hagree⟩
    obtain rfl := Except.ok.inj hclause
    revert hagree
    decide
  · rintro ⟨clause, hclause, _⟩
    cases hclause

end Condition

end DocStore
