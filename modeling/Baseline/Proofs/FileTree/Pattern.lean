import Baseline.Proofs.FileTree.Glob

/-!
# Patterns put together

A pattern that goes on after a name is read as the name would be read alone, as long as what follows
cannot close a bracket that the name leaves open.

* `Glob.pieces_cons` : the pieces of a component, character by character, without fuel.
* `Glob.pieces_append` : **the pieces of a name and of what follows it.**
* `Glob.matchesPieces_append` : pieces one after the other match texts one after the other.
* `Glob.matchesPieces_self` : a name without a closed bracket matches itself.
* `Glob.hasDoubleStar_append` : two stars do not meet across a hyphen.
-/

set_option autoImplicit false

namespace Baseline

namespace Glob

/-! ## Brackets -/

/-- What may come right after an opening bracket and never closes it, and the rest. -/
def bracketLead : List Char → List Char × List Char
  | '!' :: ']' :: rest => (['!', ']'], rest)
  | '!' :: rest => (['!'], rest)
  | ']' :: rest => ([']'], rest)
  | rest => ([], rest)

theorem splitBracket_eq (cs : List Char) : splitBracket cs =
    match (bracketLead cs).2.dropWhile (· ≠ ']') with
    | [] => none
    | _ :: after => some ((bracketLead cs).1 ++ (bracketLead cs).2.takeWhile (· ≠ ']'), after) :=
  rfl

theorem bracketLead_suffix (cs : List Char) : (bracketLead cs).2 <:+ cs := by
  unfold bracketLead
  split
  · exact (List.suffix_cons _ _).trans (List.suffix_cons _ _)
  · exact List.suffix_cons _ _
  · exact List.suffix_cons _ _
  · exact List.suffix_rfl

theorem dropWhile_of_notMem {cs : List Char} (h : ']' ∉ cs) : cs.dropWhile (· ≠ ']') = [] := by
  induction cs with
  | nil => rfl
  | cons c rest ih =>
    rw [List.mem_cons, not_or] at h
    rw [List.dropWhile_cons_of_pos (by simpa using Ne.symm h.1), ih h.2]

theorem splitBracket_none {cs : List Char} (h : ']' ∉ cs) : splitBracket cs = none := by
  have hrest : ']' ∉ (bracketLead cs).2 := fun hmem => h ((bracketLead_suffix cs).subset hmem)
  rw [splitBracket_eq, dropWhile_of_notMem hrest]

/-- What follows a closed bracket is shorter than what follows the opening one. -/
theorem length_after {cs inside after : List Char} (h : splitBracket cs = some (inside, after)) :
    after.length < cs.length := by
  have hlead := (bracketLead_suffix cs).length_le
  have hdrop := (List.dropWhile_suffix (l := (bracketLead cs).2) (· ≠ ']')).length_le
  rw [splitBracket_eq] at h
  split at h
  · cases h
  · rename_i heq
    cases h
    rw [heq, List.length_cons] at hdrop
    omega

theorem bracketLead_append {cs : List Char} (h : ']' ∈ cs) (more : List Char) :
    bracketLead (cs ++ more) = ((bracketLead cs).1, (bracketLead cs).2 ++ more) := by
  cases cs with
  | nil => cases h
  | cons c rest =>
    by_cases hmark : c = '!'
    · subst hmark
      cases rest with
      | nil => simp at h
      | cons d ds =>
        by_cases hclose : d = ']'
        · subst hclose
          rfl
        · simp [bracketLead, hclose]
    · by_cases hclose : c = ']'
      · subst hclose
        rfl
      · simp [bracketLead, hmark, hclose]

/-- What follows does not change where a bracket closes, if it has no closing one. -/
theorem splitBracket_append (cs : List Char) {more : List Char} (h : ']' ∉ more) :
    splitBracket (cs ++ more) = (splitBracket cs).map fun r => (r.1, r.2 ++ more) := by
  by_cases hcs : ']' ∈ cs
  · rw [splitBracket_eq, splitBracket_eq, bracketLead_append hcs]
    dsimp only
    rw [List.dropWhile_append, List.takeWhile_append]
    cases hdrop : (bracketLead cs).2.dropWhile (· ≠ ']') with
    | nil =>
      rw [List.isEmpty_nil, if_pos rfl, dropWhile_of_notMem h]
      rfl
    | cons c after =>
      have hlength :
          ((bracketLead cs).2.takeWhile (· ≠ ']')).length ≠ (bracketLead cs).2.length := by
        have hsum := congrArg List.length
          (List.takeWhile_append_dropWhile (p := (· ≠ ']')) (l := (bracketLead cs).2))
        rw [List.length_append, hdrop, List.length_cons] at hsum
        omega
      rw [if_neg hlength]
      rfl
  · have hall : ']' ∉ cs ++ more := by simp [hcs, h]
    rw [splitBracket_none hall, splitBracket_none hcs]
    rfl

/-! ## Pieces -/

/-- More fuel than characters changes nothing. -/
theorem piecesWithin_congr {fuel fuel' : Nat} {cs : List Char} (h : cs.length ≤ fuel)
    (h' : cs.length ≤ fuel') : piecesWithin fuel cs = piecesWithin fuel' cs := by
  induction fuel generalizing fuel' cs with
  | zero =>
    rw [List.eq_nil_of_length_eq_zero (Nat.le_zero.mp h)]
    cases fuel' <;> rfl
  | succ fuel ih =>
    cases cs with
    | nil => cases fuel' <;> rfl
    | cons c rest =>
      cases fuel' with
      | zero => simp at h'
      | succ fuel' =>
        rw [List.length_cons, Nat.add_le_add_iff_right] at h h'
        rw [piecesWithin, piecesWithin, ih h h']
        cases hsplit : splitBracket rest with
        | none => rfl
        | some r =>
          have hafter : r.2.length < rest.length := length_after hsplit
          dsimp only
          rw [ih (by omega) (show r.2.length ≤ fuel' by omega)]

/-- The pieces of a component, from its first character on. -/
theorem pieces_cons (c : Char) (rest : List Char) : pieces (c :: rest) =
    if c = '*' then .anyText :: pieces rest
    else if c = '?' then .anyChar :: pieces rest
    else if c = '[' then
      match splitBracket rest with
      | some (inside, after) => setPiece inside :: pieces after
      | none => .literal '[' :: pieces rest
    else .literal c :: pieces rest := by
  rw [pieces, List.length_cons, piecesWithin]
  cases hsplit : splitBracket rest with
  | none => rfl
  | some r =>
    have hafter : r.2.length < rest.length := length_after hsplit
    dsimp only
    rw [piecesWithin_congr (show r.2.length ≤ rest.length by omega) le_rfl]
    rfl

/-- **The pieces of a name and of what follows it**, if that closes no bracket. -/
theorem pieces_append (cs : List Char) {more : List Char} (h : ']' ∉ more) :
    pieces (cs ++ more) = pieces cs ++ pieces more := by
  induction hlen : cs.length using Nat.strongRecOn generalizing cs with
  | _ n ih =>
    cases cs with
    | nil => rfl
    | cons c rest =>
      rw [List.length_cons] at hlen
      have hrest := ih rest.length (by omega) rest rfl
      rw [List.cons_append, pieces_cons, pieces_cons, hrest, splitBracket_append rest h]
      split
      · rfl
      · split
        · rfl
        · split
          · cases hsplit : splitBracket rest with
            | none => rfl
            | some r =>
              have hafter : r.2.length < rest.length := length_after hsplit
              rw [Option.map_some]
              dsimp only
              rw [ih r.2.length (by omega) r.2 rfl, List.cons_append]
          · rfl

/-! ## What pieces match -/

/-- Whether a piece that stands for one character stands for this one. -/
def Piece.accepts : Piece → Char → Bool
  | .literal c, d => d = c
  | .anyChar, _ => true
  | .oneOf negated ranges, d => inRanges d ranges != negated
  | .anyText, _ => false

theorem matchesPieces_anyText {ps : List Piece} {cs : List Char} :
    matchesPieces (.anyText :: ps) cs = true ↔
      ∃ front rest, cs = front ++ rest ∧ matchesPieces ps rest = true := by
  rw [matchesPieces, List.any_eq_true]
  simp only [mem_suffixes]
  constructor
  · rintro ⟨rest, ⟨front, rfl⟩, h⟩
    exact ⟨front, rest, rfl, h⟩
  · rintro ⟨front, rest, rfl, h⟩
    exact ⟨rest, List.suffix_append front rest, h⟩

theorem matchesPieces_single {p : Piece} (hp : p ≠ .anyText) {ps : List Piece} {cs : List Char} :
    matchesPieces (p :: ps) cs = true ↔
      ∃ d rest, cs = d :: rest ∧ p.accepts d = true ∧ matchesPieces ps rest = true := by
  cases p with
  | anyText => exact absurd rfl hp
  | literal c => cases cs <;> simp [matchesPieces, Piece.accepts]
  | anyChar => cases cs <;> simp [matchesPieces, Piece.accepts]
  | oneOf negated ranges => cases cs <;> simp [matchesPieces, Piece.accepts]

/-- **Pieces one after the other match texts one after the other.** -/
theorem matchesPieces_append {ps qs : List Piece} {cs : List Char} :
    matchesPieces (ps ++ qs) cs = true ↔
      ∃ u v, cs = u ++ v ∧ matchesPieces ps u = true ∧ matchesPieces qs v = true := by
  induction ps generalizing cs with
  | nil =>
    constructor
    · exact fun h => ⟨[], cs, rfl, rfl, h⟩
    · rintro ⟨u, v, rfl, hu, hv⟩
      rw [matchesPieces, List.isEmpty_iff] at hu
      rwa [hu]
  | cons p ps ih =>
    rw [List.cons_append]
    by_cases hp : p = .anyText
    · subst hp
      simp only [matchesPieces_anyText, ih]
      constructor
      · rintro ⟨front, _, rfl, u, v, rfl, hu, hv⟩
        exact ⟨front ++ u, v, (List.append_assoc _ _ _).symm, ⟨front, u, rfl, hu⟩, hv⟩
      · rintro ⟨_, v, rfl, ⟨front, u, rfl, hu⟩, hv⟩
        exact ⟨front, u ++ v, List.append_assoc _ _ _, u, v, rfl, hu, hv⟩
    · simp only [matchesPieces_single hp, ih]
      constructor
      · rintro ⟨d, _, rfl, hd, u, v, rfl, hu, hv⟩
        exact ⟨d :: u, v, rfl, ⟨d, u, rfl, hd, hu⟩, hv⟩
      · rintro ⟨_, v, rfl, ⟨d, u, rfl, hd, hu⟩, hv⟩
        exact ⟨d, u ++ v, rfl, hd, u, v, rfl, hu, hv⟩

/-! ## Names that match themselves -/

/-- A bracket that is closed somewhere behind. -/
def HasClosedBracket (cs : List Char) : Prop :=
  ∃ front inside, cs = front ++ '[' :: inside ∧ ']' ∈ inside

/-- **A name without a closed bracket matches itself**, whatever other wildcards it has. -/
theorem matchesPieces_self {cs : List Char} (h : ¬ HasClosedBracket cs) :
    matchesPieces (pieces cs) cs = true := by
  induction cs with
  | nil => rfl
  | cons c rest ih =>
    have hrest : ¬ HasClosedBracket rest := by
      rintro ⟨front, inside, rfl, hclose⟩
      exact h ⟨c :: front, inside, rfl, hclose⟩
    have hself := ih hrest
    rw [pieces_cons]
    split
    · exact matchesPieces_anyText.mpr ⟨[c], rest, rfl, hself⟩
    · split
      · exact (matchesPieces_single (by simp)).mpr ⟨c, rest, rfl, rfl, hself⟩
      · split
        · rename_i hopen
          subst hopen
          have hclose : ']' ∉ rest := fun hmem => h ⟨[], rest, rfl, hmem⟩
          rw [splitBracket_none hclose]
          exact (matchesPieces_single (by simp)).mpr
            ⟨'[', rest, rfl, by simp [Piece.accepts], hself⟩
        · exact (matchesPieces_single (by simp)).mpr
            ⟨c, rest, rfl, by simp [Piece.accepts], hself⟩

/-! ## Stars -/

theorem hasDoubleStar_cons_eq (c : Char) (cs : List Char) : hasDoubleStar (c :: cs) =
    (decide (c = '*' ∧ cs.head? = some '*') || hasDoubleStar cs) := by
  by_cases hc : c = '*'
  · subst hc
    cases cs with
    | nil => rfl
    | cons d ds =>
      by_cases hd : d = '*'
      · subst hd
        simp [hasDoubleStar]
      · simp [hasDoubleStar, hd]
  · rw [hasDoubleStar_cons hc]
    simp [hc]

/-- Two stars do not meet across another character. -/
theorem hasDoubleStar_append {c : Char} (hc : c ≠ '*') (as bs : List Char) :
    hasDoubleStar (as ++ c :: bs) = (hasDoubleStar as || hasDoubleStar bs) := by
  induction as with
  | nil =>
    rw [List.nil_append, hasDoubleStar_cons hc]
    rfl
  | cons a rest ih =>
    have hhead : (rest ++ c :: bs).head? = some '*' ↔ rest.head? = some '*' := by
      cases rest with
      | nil => simpa using hc
      | cons d ds => rfl
    rw [List.cons_append, hasDoubleStar_cons_eq, hasDoubleStar_cons_eq, ih, Bool.or_assoc]
    simp only [hhead]

end Glob

end Baseline
