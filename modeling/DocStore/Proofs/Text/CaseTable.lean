import DocStore.Text.Case

/-!
# Settled case tables

A case mapping is settled if it leaves alone what it leads to. The reason lies in the table: what
its runs lead to lies in none of its runs, which is checked run against run.
-/

namespace DocStore.Text

/-! ## Runs -/

namespace CaseRun

/-- The code point that a run leads to. -/
def image (run : CaseRun) (code : Nat) : Nat :=
  (code + run.shift).toNat

/-- Is every code point that a run leads to a character? -/
def leadsToCharacters (run : CaseRun) : Bool :=
  0 ≤ run.first + run.shift &&
    (run.image run.last < 0xD800 ||
      (0xDFFF < run.image run.first && run.image run.last < 0x110000))

-- All runs of a table are compared with each other by evaluation, which `Nat.blt` makes fast.
/-- Does a code point lie outside of a run, or between the code points of it? -/
def misses (run : CaseRun) (code : Nat) : Bool :=
  code.blt run.first || run.last.blt code || ((code - run.first) % run.step).beq 1

/-- Does a run lead past another one, or between the code points of it? -/
def leadsPast (run other : CaseRun) : Bool :=
  (run.image run.last).blt other.first || other.last.blt (run.image run.first) ||
    ((run.step.beq 2 || run.first.beq run.last) && other.step.beq 2 &&
      ((run.image run.first + other.first) % 2).beq 1)

variable {run other : CaseRun} {code : Nat}

theorem holds_iff :
    run.holds code = true ↔
      run.first ≤ code ∧ code ≤ run.last ∧ (code - run.first) % run.step = 0 := by
  simp [holds, and_assoc]

theorem not_holds_of_misses (hmisses : run.misses code = true) : run.holds code = false := by
  rw [← Bool.not_eq_true, holds_iff]
  simp only [misses, Bool.or_eq_true, Nat.blt_eq, Nat.beq_eq] at hmisses
  omega

theorem isValidChar_image (hleads : run.leadsToCharacters = true)
    (hholds : run.holds code = true) : (run.image code).isValidChar := by
  obtain ⟨hfirst, hlast, _⟩ := holds_iff.mp hholds
  simp only [leadsToCharacters, Bool.and_eq_true, Bool.or_eq_true, decide_eq_true_eq] at hleads
  unfold image at hleads
  obtain ⟨hstart, hend⟩ := hleads
  unfold Nat.isValidChar image
  omega

theorem not_holds_image (hleads : run.leadsToCharacters = true)
    (hpast : run.leadsPast other = true) (hholds : run.holds code = true) :
    other.holds (run.image code) = false := by
  obtain ⟨hfirst, hlast, hstep⟩ := holds_iff.mp hholds
  rw [← Bool.not_eq_true]
  intro hother
  obtain ⟨hfirst', hlast', hstep'⟩ := holds_iff.mp hother
  simp only [leadsToCharacters, Bool.and_eq_true, decide_eq_true_eq] at hleads
  simp only [leadsPast, Bool.and_eq_true, Bool.or_eq_true, Nat.blt_eq, Nat.beq_eq] at hpast
  unfold image at hpast hfirst' hlast' hstep'
  have hstart := hleads.1
  -- Runs with a step of two that overlap are told apart by their parity.
  rcases hpast with (hbefore | hafter) | ⟨⟨htwo | hsingle, htwo'⟩, hodd⟩
  · omega
  · omega
  · rw [htwo] at hstep
    rw [htwo'] at hstep'
    omega
  · rw [htwo'] at hstep'
    omega

end CaseRun

/-! ## Tables -/

/-- All runs of a table, with each character that has a longer mapping as a run of its own. -/
def allRuns (runs : List CaseRun) (expansions : List (Nat × List Nat)) : List CaseRun :=
  (expansions.map fun (code, _) => ⟨code, code, 1, 0⟩) ++ runs

/-- Does a table lead to characters only that it does not map any further? -/
def settled (runs : List CaseRun) (expansions : List (Nat × List Nat)) : Bool :=
  (runs.all fun run => run.leadsToCharacters && (allRuns runs expansions).all run.leadsPast) &&
    expansions.all fun entry => entry.2.all fun code =>
      code.blt 0xD800 && (allRuns runs expansions).all fun run => run.misses code

theorem toNat_ofNat {code : Nat} (hvalid : code.isValidChar) : (Char.ofNat code).toNat = code := by
  rw [Char.ofNat, dif_pos hvalid]
  rfl

section Table

variable {runs : List CaseRun} {expansions : List (Nat × List Nat)} {c mapped : Char}

/-- A character in no run is its own other case. -/
theorem mapCase_of_not_holds
    (hnot : ∀ run ∈ allRuns runs expansions, run.holds c.toNat = false) :
    mapCase runs expansions c = [c] := by
  have hlookup : expansions.lookup c.toNat = none := by
    rw [List.lookup_eq_none_iff]
    intro entry hentry
    have hfalse := hnot ⟨entry.1, entry.1, 1, 0⟩
      (List.mem_append_left _ (List.mem_map.mpr ⟨entry, hentry, rfl⟩))
    rw [← Bool.not_eq_true, CaseRun.holds_iff] at hfalse
    dsimp only at hfalse
    rw [bne_iff_ne]
    omega
  have hfind : runs.find? (fun run => run.holds c.toNat) = none := by
    rw [List.find?_eq_none]
    intro run hrun
    simp [hnot run (List.mem_append_right _ hrun)]
  simp only [mapCase, hlookup, hfind]

/-- What a settled table leads to stays as it is. -/
theorem mapCase_of_mem (hsettled : settled runs expansions = true)
    (hmem : mapped ∈ mapCase runs expansions c) : mapCase runs expansions mapped = [mapped] := by
  simp only [settled, Bool.and_eq_true, List.all_eq_true] at hsettled
  obtain ⟨hruns, hexpansions⟩ := hsettled
  cases hlookup : expansions.lookup c.toNat with
  | some codes =>
      simp only [mapCase, hlookup, List.mem_map] at hmem
      obtain ⟨code, hcode, rfl⟩ := hmem
      obtain ⟨before, after, rfl, -⟩ := List.lookup_eq_some_iff.mp hlookup
      obtain ⟨hsmall, hmisses⟩ := hexpansions (c.toNat, codes) (by simp) code hcode
      have hvalid : code.isValidChar := .inl (Nat.blt_eq.mp hsmall)
      apply mapCase_of_not_holds
      rw [toNat_ofNat hvalid]
      exact fun run hrun => CaseRun.not_holds_of_misses (hmisses run hrun)
  | none =>
      cases hfind : runs.find? (fun run => run.holds c.toNat) with
      | some run =>
          simp only [mapCase, hlookup, hfind, List.mem_singleton] at hmem
          have hholds : run.holds c.toNat = true := by simpa using List.find?_some hfind
          obtain ⟨hleads, hpast⟩ := hruns run (List.mem_of_find?_eq_some hfind)
          subst hmem
          apply mapCase_of_not_holds
          intro other hother
          change other.holds (Char.ofNat (run.image c.toNat)).toNat = false
          rw [toNat_ofNat (CaseRun.isValidChar_image hleads hholds)]
          exact CaseRun.not_holds_image hleads (hpast other hother) hholds
      | none =>
          have hself : mapCase runs expansions c = [c] := by
            simp only [mapCase, hlookup, hfind]
          rw [hself, List.mem_singleton] at hmem
          rw [hmem, hself]

end Table

end DocStore.Text
