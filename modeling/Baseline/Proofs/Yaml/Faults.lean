import Baseline.Yaml.Content

/-!
# Which faults a YAML text raises

Nearly everything that can be wrong with a text is reported as its form.  There are three exceptions:
a numeric escape may name no character, collections may be nested too deep, and a scalar may not fit
the kind that its tag or its form gives it.  The faults of the calendar are of the third sort.

* `RaisesOnly` : every error of a step has a property.  Its lemmas take a step apart by `simp`.
* `ofText_fault_tokens`, `raisesOnly_document` : cutting a text into tokens, and reading them.
* `Node.RefusesWithin.succ` : what one more step of the readers keeps.
* `Node.failsAsNode_build` : the value of a node.
* `raisesOnly_load` : **the faults of a text.**
-/

set_option autoImplicit false

namespace Baseline

/-! ## Steps and their errors -/

/-- Every error of a step has a property. -/
def RaisesOnly {ε α : Type} (P : ε → Prop) (x : Except ε α) : Prop := ∀ e, x = .error e → P e

section Steps

variable {ε α β : Type} {P : ε → Prop}

@[simp] theorem raisesOnly_ok (a : α) : RaisesOnly P (.ok a) := nofun

@[simp] theorem raisesOnly_pure (a : α) : RaisesOnly P (pure a) := nofun

@[simp] theorem raisesOnly_error {e : ε} : RaisesOnly P (.error e : Except ε α) ↔ P e :=
  ⟨fun h => h e rfl, fun h _ he => Except.error.inj he ▸ h⟩

@[simp] theorem raisesOnly_throw {e : ε} : RaisesOnly P (throw e : Except ε α) ↔ P e :=
  raisesOnly_error

@[simp] theorem raisesOnly_bind {x : Except ε α} {f : α → Except ε β} :
    RaisesOnly P (x >>= f) ↔ RaisesOnly P x ∧ ∀ a, x = .ok a → RaisesOnly P (f a) := by
  cases x with
  | error e => simp [bind, Except.bind]
  | ok a => simp [bind, Except.bind]

@[simp] theorem raisesOnly_map {x : Except ε α} {f : α → β} :
    RaisesOnly P (x.map f) ↔ RaisesOnly P x := by
  cases x <;> simp [Except.map]

@[simp] theorem raisesOnly_fmap {x : Except ε α} {f : α → β} :
    RaisesOnly P (f <$> x) ↔ RaisesOnly P x :=
  raisesOnly_map

@[simp] theorem raisesOnly_mapError {ε' : Type} {Q : ε' → Prop} {x : Except ε α} {f : ε → ε'} :
    RaisesOnly Q (x.mapError f) ↔ RaisesOnly (fun e => Q (f e)) x := by
  cases x with
  | error e => exact raisesOnly_error.trans (raisesOnly_error (P := fun e => Q (f e))).symm
  | ok a => exact iff_of_true (raisesOnly_ok a) (raisesOnly_ok a)

theorem RaisesOnly.mono {Q : ε → Prop} {x : Except ε α} (h : RaisesOnly P x)
    (hmono : ∀ e, P e → Q e) : RaisesOnly Q x :=
  fun e he => hmono e (h e he)

theorem raisesOnly_mapM {f : α → Except ε β} (h : ∀ a, RaisesOnly P (f a)) (xs : List α) :
    RaisesOnly P (xs.mapM f) := by
  induction xs with
  | nil => simp
  | cons a rest ih => simp [List.mapM_cons, h, ih]

@[simp] theorem raisesOnly_ite {c : Prop} [Decidable c] {x y : Except ε α} :
    RaisesOnly P (if c then x else y) ↔ (c → RaisesOnly P x) ∧ (¬ c → RaisesOnly P y) := by
  split <;> simp [*]

end Steps

namespace Yaml

/-! ## Characters and tokens -/

/-- The faults of a text that cannot be cut into tokens: it is ill-formed, or a numeric escape is
beyond all characters. -/
def OfText (f : Fault) : Prop := f = .markup ∨ ∃ code, 0x110000 ≤ code ∧ f = .codePointTooLarge code

@[simp] theorem ofText_markup : OfText .markup := Or.inl rfl

theorem raisesOnly_characters (text : String) : RaisesOnly OfText (characters text) := by
  simp [characters]

@[simp] theorem raisesOnly_skipComment (c : Cursor) : RaisesOnly OfText c.skipComment := by
  simp [Cursor.skipComment]

@[simp] theorem raisesOnly_anchorName (c : Cursor) : RaisesOnly OfText (anchorName c) := by
  simp [anchorName]

@[simp] theorem raisesOnly_escapedBytes (fuel : Nat) (c : Cursor) :
    RaisesOnly OfText (escapedBytes fuel c) := by
  induction fuel generalizing c with
  | zero => simp [escapedBytes]
  | succ fuel ih =>
    unfold escapedBytes
    split
    · split <;> simp [ih]
    · simp
    · simp

@[simp] theorem raisesOnly_addressChars (fuel : Nat) (c : Cursor) :
    RaisesOnly OfText (addressChars fuel c) := by
  induction fuel generalizing c with
  | zero => simp [addressChars]
  | succ fuel ih =>
    unfold addressChars
    simp only [raisesOnly_ite, raisesOnly_bind]
    refine ⟨fun _ => ⟨by simp, fun a _ => ?_⟩, by simp⟩
    split <;> simp [ih]

@[simp] theorem raisesOnly_address (c : Cursor) : RaisesOnly OfText (address c) := by
  simp [address]

@[simp] theorem raisesOnly_tagHandle (c : Cursor) : RaisesOnly OfText (tagHandle c) := by
  simp [tagHandle]

@[simp] theorem raisesOnly_tagBody (c : Cursor) : RaisesOnly OfText (tagBody c) := by
  simp [tagBody]

@[simp] theorem raisesOnly_tagName (c : Cursor) : RaisesOnly OfText (tagName c) := by
  simp [tagName]

@[simp] theorem raisesOnly_versionNumber (c : Cursor) : RaisesOnly OfText (versionNumber c) := by
  simp [versionNumber]

@[simp] theorem raisesOnly_versionDirective (c : Cursor) :
    RaisesOnly OfText (versionDirective c) := by
  simp [versionDirective]

@[simp] theorem raisesOnly_handleDirective (c : Cursor) :
    RaisesOnly OfText (handleDirective c) := by
  simp [handleDirective]

@[simp] theorem raisesOnly_directive (c : Cursor) : RaisesOnly OfText (directive c) := by
  simp [directive]

/-! ### Quoted and block scalars -/

@[simp] theorem raisesOnly_codeEscape (length : Nat) (c : Cursor) :
    RaisesOnly OfText (codeEscape length c) := by
  unfold codeEscape
  dsimp only
  split
  · simp
  · rename_i code _
    simp only [raisesOnly_ite, raisesOnly_error, ofText_markup, raisesOnly_ok, implies_true,
      and_true, true_and]
    exact fun _ hcode => Or.inr ⟨code, hcode, rfl⟩

@[simp] theorem raisesOnly_quotedBreaks (fuel : Nat) (c : Cursor) :
    RaisesOnly OfText (quotedBreaks fuel c) := by
  induction fuel generalizing c with
  | zero => simp [quotedBreaks]
  | succ fuel ih =>
    unfold quotedBreaks
    simp only [raisesOnly_ite, raisesOnly_error, ofText_markup, implies_true, true_and]
    intro _
    split <;> simp [ih]

@[simp] theorem raisesOnly_quotedSpaces (c : Cursor) : RaisesOnly OfText (quotedSpaces c) := by
  unfold quotedSpaces
  dsimp only
  split <;> simp

@[simp] theorem raisesOnly_escape (c : Cursor) : RaisesOnly OfText (escape c) := by
  unfold escape
  split
  · simp
  · split <;> simp

@[simp] theorem raisesOnly_quotedText (quote : Char) (fuel : Nat) (c : Cursor) :
    RaisesOnly OfText (quotedText quote fuel c) := by
  induction fuel generalizing c with
  | zero => simp [quotedText]
  | succ fuel ih =>
    unfold quotedText
    split <;> simp [ih]

@[simp] theorem raisesOnly_quotedScalar (quote : Char) (c : Cursor) :
    RaisesOnly OfText (quotedScalar quote c) := by
  simp [quotedScalar]

@[simp] theorem raisesOnly_takeIndent (c : Cursor) : RaisesOnly OfText (takeIndent c) := by
  unfold takeIndent
  split <;> simp

@[simp] theorem raisesOnly_blockHeader (c : Cursor) : RaisesOnly OfText (blockHeader c) := by
  simp [blockHeader]

@[simp] theorem raisesOnly_blockScalar (folds : Bool) (outer : Int) (c : Cursor) :
    RaisesOnly OfText (blockScalar folds outer c) := by
  simp [blockScalar]

/-! ### The layout -/

namespace Layout

variable (l : Layout)

@[simp] theorem raisesOnly_forgetStale : RaisesOnly OfText l.forgetStale := by
  simp [forgetStale]

@[simp] theorem raisesOnly_forgetPlace : RaisesOnly OfText l.forgetPlace := by
  simp [forgetPlace]

@[simp] theorem raisesOnly_rememberPlace : RaisesOnly OfText l.rememberPlace := by
  simp [rememberPlace]

@[simp] theorem raisesOnly_closeDocument : RaisesOnly OfText l.closeDocument := by
  simp [closeDocument]

@[simp] theorem raisesOnly_documentMark (t : Token) : RaisesOnly OfText (l.documentMark t) := by
  simp [documentMark]

@[simp] theorem raisesOnly_directiveLine : RaisesOnly OfText l.directiveLine := by
  simp [directiveLine]

@[simp] theorem raisesOnly_openFlow (t : Token) : RaisesOnly OfText (l.openFlow t) := by
  simp [openFlow]

@[simp] theorem raisesOnly_closeFlow (t : Token) : RaisesOnly OfText (l.closeFlow t) := by
  simp [closeFlow]

@[simp] theorem raisesOnly_comma : RaisesOnly OfText l.comma := by
  simp [comma]

@[simp] theorem raisesOnly_openAt (opening : Token) : RaisesOnly OfText (l.openAt opening) := by
  simp only [openAt, raisesOnly_ite, raisesOnly_ok, raisesOnly_error, ofText_markup, implies_true,
    true_and]
  intro _ _
  split <;> simp

@[simp] theorem raisesOnly_item : RaisesOnly OfText l.item := by
  simp [item]

@[simp] theorem raisesOnly_key : RaisesOnly OfText l.key := by
  simp [key]

@[simp] theorem raisesOnly_value : RaisesOnly OfText l.value := by
  unfold value
  split <;> simp

theorem raisesOnly_keyable {read : Cursor → Except Fault (Token × Cursor)}
    (h : ∀ c, RaisesOnly OfText (read c)) : RaisesOnly OfText (l.keyable read) := by
  simp [keyable, h]

@[simp] theorem raisesOnly_plain : RaisesOnly OfText l.plain := by
  simp [plain]

@[simp] theorem raisesOnly_block (folds : Bool) : RaisesOnly OfText (l.block folds) := by
  simp [block]

@[simp] theorem raisesOnly_readToken (ch : Char) : RaisesOnly OfText (l.readToken ch) := by
  simp [readToken, raisesOnly_keyable]

theorem raisesOnly_readOn : RaisesOnly OfText l.readOn := by
  unfold readOn
  simp only [raisesOnly_bind, raisesOnly_forgetStale, true_and]
  intro l _
  split <;> simp

theorem ofText_fault_cut {f : Fault} (fuel : Nat) (h : (l.cut fuel).fault = some f) :
    OfText f := by
  induction fuel generalizing l with
  | zero =>
    cases h
    exact ofText_markup
  | succ fuel ih =>
    unfold cut at h
    split at h
    · rename_i g hread
      cases h
      exact l.raisesOnly_readOn f hread
    · cases h
    · rename_i l' _
      exact ih l' h

end Layout

/-- **What stops the cutting into tokens.** -/
theorem ofText_fault_tokens {cs : List Char} {f : Fault} (h : (tokens cs).fault = some f) :
    OfText f :=
  Layout.ofText_fault_cut _ _ h

/-! ## Nodes -/

/-- The faults of reading: the tokens describe no node, or collections that are nested too deep, or
the reader comes to the fault behind the tokens. -/
def OfReading (behind : Option Fault) (f : Fault) : Prop :=
  f = .markup ∨ f = .nodesTooDeep ∨ behind = some f

@[simp] theorem ofReading_markup (behind : Option Fault) : OfReading behind .markup := Or.inl rfl

@[simp] theorem ofReading_nodesTooDeep (behind : Option Fault) : OfReading behind .nodesTooDeep :=
  Or.inr (Or.inl rfl)

/-- A step of reading has no other faults. -/
def Refuses {α : Type} (m : Reader α) : Prop :=
  ∀ behind r, RaisesOnly (OfReading behind) (m behind r)

namespace Reader

variable {α β : Type}

@[simp] theorem refuses_pure (a : α) : Refuses (pure a : Reader α) := fun _ _ => nofun

@[simp] theorem refuses_stop {f : Fault} (h : f = .markup ∨ f = .nodesTooDeep) :
    Refuses (stop f : Reader α) := by
  intro behind r
  exact raisesOnly_error.mpr (h.imp_right Or.inl)

@[simp] theorem refuses_refuse : Refuses (refuse : Reader α) := refuses_stop (Or.inl rfl)

@[simp] theorem refuses_bind {m : Reader α} {f : α → Reader β} (h : Refuses m)
    (hf : ∀ a, Refuses (f a)) : Refuses (m >>= f) := by
  intro behind r
  simp only [Bind.bind, ReaderT.bind, StateT.bind]
  exact raisesOnly_bind.mpr ⟨h behind r, fun p _ => hf p.1 behind p.2⟩

@[simp] theorem refuses_map {m : Reader α} {f : α → β} : Refuses (f <$> m) ↔ Refuses m := by
  refine forall_congr' fun behind => forall_congr' fun r => ?_
  change RaisesOnly _ ((fun p => (f p.1, p.2)) <$> m behind r) ↔ _
  exact raisesOnly_fmap

@[simp] theorem refuses_ite {c : Prop} [Decidable c] {m m' : Reader α} :
    Refuses (if c then m else m') ↔ (c → Refuses m) ∧ (¬ c → Refuses m') := by
  split <;> simp [*]

@[simp] theorem refuses_get : Refuses (get : Reader Reading) := fun _ _ => nofun

@[simp] theorem refuses_set (r : Reading) : Refuses (set r : Reader PUnit) := fun _ _ => nofun

@[simp] theorem refuses_modify (f : Reading → Reading) : Refuses (modify f : Reader PUnit) :=
  fun _ _ => nofun

@[simp] theorem refuses_next : Refuses next := by
  intro behind r
  unfold next
  split
  · exact raisesOnly_error.mpr (Or.inr (Or.inr rfl))
  · exact raisesOnly_ok _

@[simp] theorem refuses_skip : Refuses skip := refuses_modify _

@[simp] theorem refuses_skipIf (t : Token) : Refuses (skipIf t) := by
  simp [skipIf]

@[simp] theorem refuses_expect (t : Token) : Refuses (expect t) := by
  simp [expect]

@[simp] theorem refuses_nextIsOneOf (ts : List Token) : Refuses (nextIsOneOf ts) := by
  simp [nextIsOneOf]

@[simp] theorem refuses_nodeNamed (name : String) : Refuses (nodeNamed name) := by
  refine refuses_bind refuses_get fun r => ?_
  split <;> simp

@[simp] theorem refuses_giveName (name : String) (n : Node) : Refuses (giveName name n) := by
  simp [giveName]

@[simp] theorem refuses_namedScalar (name : Option String) (n : Node) :
    Refuses (namedScalar name n) := by
  unfold namedScalar
  split <;> simp

@[simp] theorem refuses_deeper {content : Reader α} (h : Refuses content) :
    Refuses (deeper content) := by
  have hread : Refuses do
      modify fun r => { r with depth := r.depth + 1 }
      let found ← content
      modify fun r => { r with depth := r.depth - 1 }
      return found := by
    refine refuses_bind (refuses_modify _) fun _ => refuses_bind h fun _ => ?_
    simp
  refine refuses_bind refuses_get fun r => refuses_ite.mpr ⟨fun _ => ?_, fun _ => hread⟩
  exact refuses_bind (refuses_stop (Or.inr rfl)) fun _ => hread

@[simp] theorem refuses_collection {name : Option String} {make : List α → Node}
    {content : Reader (List α)} (h : Refuses content) :
    Refuses (collection name make content) := by
  unfold collection
  split
  · exact refuses_bind (refuses_deeper h) fun _ => refuses_pure _
  · refine refuses_bind (refuses_giveName _ _) fun _ => refuses_bind (refuses_deeper h) fun _ => ?_
    simp

@[simp] theorem refuses_fullTag (t : TagName) : Refuses (fullTag t) := by
  unfold fullTag
  split
  · simp
  · refine refuses_bind refuses_get fun r => ?_
    split <;> simp

@[simp] theorem refuses_properties : Refuses properties := by
  refine refuses_bind refuses_next fun t => ?_
  split
  · refine refuses_bind refuses_skip fun _ => refuses_bind refuses_next fun t => ?_
    split <;> simp
  · refine refuses_bind refuses_skip fun _ => refuses_bind refuses_next fun t => ?_
    split <;> simp
  · simp

end Reader

namespace Node

open Reader

/-- The readers of nodes refuse what they do not take, within a number of steps. -/
structure RefusesWithin (fuel : Nat) : Prop where
  node : ∀ place, Refuses (read fuel place)
  optional : ∀ place stops, Refuses (readUnless fuel place stops)
  value : ∀ place stops, Refuses (readValue fuel place stops)
  blockItems : Refuses (blockItems fuel)
  looseItems : Refuses (looseItems fuel)
  blockEntries : Refuses (blockEntries fuel)
  bracketItems : ∀ first, Refuses (bracketItems fuel first)
  bracketEntry : Refuses (bracketEntry fuel)
  bracketEntries : ∀ first, Refuses (bracketEntries fuel first)

/-- One more step keeps the readers from anything else. -/
theorem RefusesWithin.succ {fuel : Nat} (h : RefusesWithin fuel) : RefusesWithin (fuel + 1) where
  node := by
    intro place
    unfold read
    refine refuses_bind refuses_next fun t => ?_
    split
    · exact refuses_bind refuses_skip fun _ => refuses_nodeNamed _
    refine refuses_bind refuses_properties fun p => refuses_bind refuses_next fun t => ?_
    split
    · refine refuses_bind refuses_skip fun _ => ?_
      simp
    · simp [h.blockItems, h.looseItems, h.blockEntries, h.bracketItems, h.bracketEntries]
  optional := by
    intro place stops
    unfold readUnless
    simp [h.node]
  value := by
    intro place stops
    unfold readValue
    simp [h.optional]
  blockItems := by
    unfold Node.blockItems
    refine refuses_bind (refuses_skipIf _) fun _ => ?_
    simp [h.optional, h.blockItems]
  looseItems := by
    unfold Node.looseItems
    refine refuses_bind (refuses_skipIf _) fun _ => ?_
    simp [h.optional, h.looseItems]
  blockEntries := by
    unfold Node.blockEntries
    refine refuses_bind (refuses_skipIf _) fun _ => ?_
    simp [h.optional, h.value, h.blockEntries]
  bracketItems := by
    intro first
    unfold Node.bracketItems
    refine refuses_bind (refuses_skipIf _) fun _ => refuses_ite.mpr ⟨by simp, fun _ => ?_⟩
    refine refuses_ite.mpr ⟨fun _ => refuses_bind (refuses_expect _) fun _ => ?_, fun _ => ?_⟩
    -- what follows is the same behind a comma and in the first place
    all_goals
      refine refuses_bind (refuses_skipIf _) fun _ => refuses_ite.mpr ⟨fun _ => ?_, fun _ => ?_⟩
      · simp [h.bracketEntry, h.bracketItems]
      · refine refuses_bind (refuses_skipIf _) fun _ => ?_
        simp [h.node, h.bracketItems]
  bracketEntry := by
    unfold Node.bracketEntry
    simp [h.optional, h.value]
  bracketEntries := by
    intro first
    unfold Node.bracketEntries
    refine refuses_bind (refuses_skipIf _) fun _ => refuses_ite.mpr ⟨by simp, fun _ => ?_⟩
    refine refuses_ite.mpr ⟨fun _ => refuses_bind (refuses_expect _) fun _ => ?_, fun _ => ?_⟩
    all_goals
      refine refuses_bind (refuses_skipIf _) fun _ => refuses_ite.mpr ⟨fun _ => ?_, fun _ => ?_⟩
      · simp [h.optional, h.value, h.bracketEntries]
      · refine refuses_bind (refuses_skipIf _) fun _ => ?_
        simp [h.node, h.bracketEntries]

theorem refusesWithin (fuel : Nat) : RefusesWithin fuel := by
  induction fuel with
  | zero =>
    constructor <;> intros <;>
      simp [read, readUnless, readValue, blockItems, looseItems, blockEntries, bracketItems,
        bracketEntry, bracketEntries]
  | succ fuel ih => exact ih.succ

end Node

namespace Reader

@[simp] theorem refuses_skipDocumentEnds : Refuses skipDocumentEnds := refuses_modify _

theorem refuses_declare (versioned : Bool) (handles : List (String × String))
    (ds : List Directive) : Refuses (declare versioned handles ds) := by
  induction ds generalizing versioned handles with
  | nil => simp [declare]
  | cons d rest ih => cases d <;> simp [declare, ih]

@[simp] theorem refuses_directives : Refuses directives := by
  refine refuses_bind refuses_get fun r => refuses_bind (refuses_declare _ _ _) fun _ => ?_
  simp

@[simp] theorem refuses_read (fuel : Nat) (place : Place) : Refuses (Node.read fuel place) :=
  (Node.refusesWithin fuel).node place

@[simp] theorem refuses_markedDocument (fuel : Nat) : Refuses (markedDocument fuel) := by
  refine refuses_bind refuses_skipDocumentEnds fun _ => refuses_bind refuses_next fun _ => ?_
  refine refuses_ite.mpr ⟨by simp, fun _ => ?_⟩
  refine refuses_bind refuses_directives fun _ => refuses_bind (refuses_expect _) fun _ => ?_
  simp

theorem refuses_document (fuel : Nat) : Refuses (document fuel) := by
  have hend : ∀ n : Option Node, Refuses do
      skipDocumentEnds
      if (← next).isSome then refuse
      return n := by
    intro n
    refine refuses_bind refuses_skipDocumentEnds fun _ => ?_
    simp
  refine refuses_bind refuses_next fun t => refuses_ite.mpr ⟨fun _ => ?_, fun _ => ?_⟩
  · exact refuses_bind (refuses_markedDocument fuel) hend
  · exact refuses_bind (refuses_map.mpr (refuses_read fuel _)) hend

end Reader

theorem raisesOnly_document (c : Cut) : RaisesOnly (OfReading c.fault) (document c) := by
  unfold document
  change RaisesOnly _ (Prod.fst <$> _)
  rw [raisesOnly_fmap]
  exact Reader.refuses_document _ _ _

/-! ## Values -/

/-- The faults of a scalar that its kind does not fit. -/
def OfScalar : Fault → Prop
  | .missingKey _ | .badInteger _ _ | .integerTextTooLong _ | .emptyText | .notANumber _
  | .tooLargeForDouble | .badCalendar _ | .noGroups | .notText _ => True
  | _ => False

/-- The faults of a node: it is ill-formed, or a search in it does not end, or a scalar does not fit
its kind. -/
def OfNode (f : Fault) : Prop := f = .markup ∨ f = .nodesTooDeep ∨ OfScalar f

@[simp] theorem ofNode_markup : OfNode .markup := Or.inl rfl

@[simp] theorem ofNode_nodesTooDeep : OfNode .nodesTooDeep := Or.inr (Or.inl rfl)

theorem OfScalar.ofNode {f : Fault} (h : OfScalar f) : OfNode f := Or.inr (Or.inr h)

namespace Scalar

theorem raisesOnly_bool (text : String) : RaisesOnly OfNode (bool text) := by
  simp [bool, OfNode, OfScalar]

@[simp] theorem raisesOnly_inBase (base : Nat) (cs : List Char) :
    RaisesOnly OfNode (inBase base cs) := by
  simp [inBase, refused, OfNode, OfScalar]

@[simp] theorem raisesOnly_unsignedInt (cs : List Char) :
    RaisesOnly OfNode (unsignedInt cs) := by
  unfold unsignedInt
  split <;> simp [OfNode, OfScalar, raisesOnly_mapM]

theorem raisesOnly_int (text : String) : RaisesOnly OfNode (int text) := by
  simp [int, OfNode, OfScalar]

theorem raisesOnly_toDouble_int (n : Int) : RaisesOnly OfNode (Value.int n).toDouble := by
  rw [Value.toDouble_of_eq_int rfl]
  cases Double.ofInt? n with
  | none => exact raisesOnly_error.mpr (OfScalar.ofNode trivial)
  | some x => exact raisesOnly_ok x

@[simp] theorem raisesOnly_sumOfSixtieths (total : Double) (power : Nat) (xs : List Double) :
    RaisesOnly OfNode (sumOfSixtieths total power xs) := by
  induction xs generalizing total power with
  | nil => exact raisesOnly_ok total
  | cons x rest ih =>
    rw [sumOfSixtieths, raisesOnly_bind]
    exact ⟨raisesOnly_toDouble_int _, fun _ _ => ih _ _⟩

@[simp] theorem raisesOnly_part (cs : List Char) : RaisesOnly OfNode (part cs) := by
  unfold part Value.doubleOfText
  split <;> simp [OfNode, OfScalar]

@[simp] theorem raisesOnly_unsignedFloat (cs : List Char) :
    RaisesOnly OfNode (unsignedFloat cs) := by
  unfold unsignedFloat
  split
  · exact raisesOnly_ok _
  split
  · exact raisesOnly_ok _
  · simp [raisesOnly_mapM]

theorem raisesOnly_float (text : String) : RaisesOnly OfNode (float text) := by
  simp [float, OfNode, OfScalar]

theorem raisesOnly_binary (text : String) : RaisesOnly OfNode (binary text) := by
  unfold binary
  simp only [raisesOnly_ite, raisesOnly_error, ofNode_markup, implies_true, and_true]
  intro _
  split <;> simp

end Scalar

namespace Timestamp

@[simp] theorem raisesOnly_checkOffset (minutes : Int) :
    RaisesOnly OfNode (checkOffset minutes) := by
  unfold checkOffset
  split
  · exact raisesOnly_ok _
  · exact raisesOnly_error.mpr (OfScalar.ofNode trivial)

@[simp] theorem raisesOnly_checkDay (t : Timestamp) : RaisesOnly OfNode (checkDay t) := by
  simp [checkDay, OfNode, OfScalar]

@[simp] theorem raisesOnly_checkTime (t : TimeOfDay) : RaisesOnly OfNode (checkTime t) := by
  simp [checkTime, OfNode, OfScalar]

@[simp] theorem raisesOnly_toValue (t : Timestamp) : RaisesOnly OfNode t.toValue := by
  unfold toValue
  split
  · simp
  · rename_i time _
    have hoffset : RaisesOnly OfNode ((time.offset.map checkOffset).getD (.ok ())) := by
      cases time.offset <;> simp
    simp [hoffset]

end Timestamp

theorem Scalar.raisesOnly_timestamp (text : String) : RaisesOnly OfNode (timestamp text) := by
  unfold Scalar.timestamp
  split <;> simp [OfNode, OfScalar]

namespace Node

mutual

theorem raisesOnly_scalarText : (n : Node) → RaisesOnly OfNode n.scalarText
  | scalar _ _ => by simp [scalarText]
  | sequence _ _ => by simp [scalarText]
  | mapping _ es => by
    rw [scalarText]
    exact raisesOnly_namedText es
  | within _ _ => by simp [scalarText]

theorem raisesOnly_namedText : (es : List (Node × Node)) → RaisesOnly OfNode (namedText es)
  | [] => by simp [namedText]
  | (_, v) :: rest => by
    rw [namedText, raisesOnly_ite]
    exact ⟨fun _ => raisesOnly_scalarText v, fun _ => raisesOnly_namedText rest⟩

end

theorem raisesOnly_timestamp (n : Node) : RaisesOnly OfNode n.timestamp := by
  refine raisesOnly_bind.mpr ⟨n.raisesOnly_scalarText, fun text _ => ?_⟩
  split
  · exact Scalar.raisesOnly_timestamp text
  · simp [OfNode, OfScalar]

/-- **A scalar is refused for its form, or because it does not fit its kind.** -/
theorem raisesOnly_scalarValue? {n : Node} {found : Except Fault Value}
    (h : n.scalarValue? = some found) : RaisesOnly OfNode found := by
  have hbind : ∀ {f : String → Except Fault Value}, (∀ text, RaisesOnly OfNode (f text)) →
      RaisesOnly OfNode (n.scalarText.bind f) := fun hf =>
    raisesOnly_bind.mpr ⟨n.raisesOnly_scalarText, fun text _ => hf text⟩
  unfold scalarValue? at h
  split at h <;> cases h
  · exact raisesOnly_map.mpr n.raisesOnly_scalarText
  · exact hbind Scalar.raisesOnly_bool
  · exact hbind Scalar.raisesOnly_int
  · exact hbind Scalar.raisesOnly_float
  · exact hbind Scalar.raisesOnly_binary
  · exact n.raisesOnly_timestamp
  · exact raisesOnly_map.mpr n.raisesOnly_scalarText
  all_goals simp

mutual

theorem raisesOnly_mergedEntries (es : List (Node × Node)) :
    RaisesOnly OfNode (mergedEntries es) := by
  rw [mergedEntries]
  exact raisesOnly_bind.mpr ⟨raisesOnly_importedEntries es, fun _ _ => raisesOnly_pure _⟩

theorem raisesOnly_importedEntries : (es : List (Node × Node)) →
    RaisesOnly OfNode (importedEntries es)
  | [] => by simp [importedEntries]
  | (k, v) :: rest => by
    rw [importedEntries]
    simp [raisesOnly_sourceEntries v, raisesOnly_importedEntries rest]

theorem raisesOnly_sourceEntries : (n : Node) → RaisesOnly OfNode (sourceEntries n)
  | scalar _ _ => by simp [sourceEntries]
  | sequence _ items => by
    rw [sourceEntries]
    exact raisesOnly_itemEntries items
  | mapping _ es => by
    rw [sourceEntries]
    exact raisesOnly_mergedEntries es
  | within _ _ => by simp [sourceEntries]

theorem raisesOnly_itemEntries : (items : List Node) → RaisesOnly OfNode (itemEntries items)
  | [] => by simp [itemEntries]
  | mapping _ es :: rest => by
    rw [itemEntries]
    simp [raisesOnly_mergedEntries es, raisesOnly_itemEntries rest]
  | within _ (mapping _ _) :: rest => by
    rw [itemEntries]
    exact raisesOnly_itemEntries rest
  | within _ (scalar _ _) :: _ => by simp [itemEntries]
  | within _ (sequence _ _) :: _ => by simp [itemEntries]
  | within _ (within _ _) :: _ => by simp [itemEntries]
  | scalar _ _ :: _ => by simp [itemEntries]
  | sequence _ _ :: _ => by simp [itemEntries]

end

/-- A part of a content is refused as its nodes are. -/
def FailsAsNode {α : Type} (part : Built α) : Prop := RaisesOnly (fun e => OfNode e.2) part

section Parts

variable {α β : Type}

theorem failsAsNode_error {depth : Nat} {f : Fault} (h : OfNode f) :
    FailsAsNode (.error (depth, f) : Built α) :=
  raisesOnly_error.mpr h

theorem FailsAsNode.both {x : Built α} {y : Built β} (hx : FailsAsNode x) (hy : FailsAsNode y) :
    FailsAsNode (Built.both x y) := by
  unfold FailsAsNode at hx hy ⊢
  cases x <;> cases y <;> simp only [Built.both, raisesOnly_ok, raisesOnly_error] at hx hy ⊢
  · split
    · exact hy
    · exact hx
  · exact hx
  · exact hy

theorem FailsAsNode.map {x : Built α} (h : FailsAsNode x) (f : α → β) :
    FailsAsNode (x.map f) :=
  raisesOnly_map.mpr h

theorem failsAsNode_all {parts : List (Built α)} (h : ∀ part ∈ parts, FailsAsNode part) :
    FailsAsNode (Built.all parts) := by
  induction parts with
  | nil => exact raisesOnly_ok _
  | cons part rest ih =>
    have hrest := ih fun other hother => h other (List.mem_cons_of_mem _ hother)
    exact ((h part List.mem_cons_self).both hrest).map _

theorem FailsAsNode.asKey {x : Built Value} (h : FailsAsNode x) (depth : Nat) :
    FailsAsNode (x.asKey depth) := by
  cases x with
  | ok v =>
    rw [Built.asKey]
    split
    · exact raisesOnly_ok _
    · exact failsAsNode_error ofNode_markup
  | error e =>
    rw [Built.asKey]
    split
    · exact failsAsNode_error ofNode_markup
    · exact h

end Parts

/-- **The value of a node is refused for the form of the node, or because a scalar does not fit its
kind.** -/
theorem failsAsNode_build (fuel depth : Nat) (n : Node) : FailsAsNode (n.build fuel depth) := by
  induction fuel generalizing depth n with
  | zero => exact failsAsNode_error ofNode_markup
  | succ fuel ih =>
    have hrows : ∀ es : List (Node × Node), FailsAsNode (Built.all (es.map fun e =>
        Built.both ((build fuel (depth + 1) e.1).asKey (depth + 1))
          (build fuel (depth + 1) e.2))) := by
      intro es
      refine failsAsNode_all fun part hpart => ?_
      obtain ⟨e, -, rfl⟩ := List.mem_map.mp hpart
      exact ((ih _ e.1).asKey _).both (ih _ e.2)
    have hitems : ∀ {read : Node → Built Value}, (∀ item, FailsAsNode (read item)) →
        ∀ items : List Node, FailsAsNode (Built.all (items.map read)) := by
      intro read hread items
      refine failsAsNode_all fun part hpart => ?_
      obtain ⟨item, -, rfl⟩ := List.mem_map.mp hpart
      exact hread item
    unfold build
    dsimp only
    split
    · rename_i found hfound
      exact raisesOnly_mapError.mpr (raisesOnly_scalarValue? hfound)
    · exact (hitems (ih _) _).map _
    -- a list of pairs, which may stand for a map that keeps their order
    iterate 2
      · refine (hitems (fun item => ?_) _).map _
        split
        · exact ((ih _ _).both (ih _ _)).map _
        · exact raisesOnly_ok _
        · exact failsAsNode_error ofNode_markup
    -- a map, which may stand for the set of its keys
    iterate 2
      · refine FailsAsNode.map ?_ _
        split
        · rename_i hmerged
          exact failsAsNode_error (raisesOnly_mergedEntries _ _ hmerged)
        · exact hrows _
    · exact failsAsNode_error ofNode_markup

end Node

/-- The faults of a text that is read. -/
def OfLoad (f : Fault) : Prop := OfText f ∨ f = .nodesTooDeep ∨ OfScalar f

theorem OfReading.ofLoad {cs : List Char} {f : Fault} (h : OfReading (tokens cs).fault f) :
    OfLoad f := by
  rcases h with rfl | rfl | hbehind
  · exact Or.inl ofText_markup
  · exact Or.inr (Or.inl rfl)
  · exact Or.inl (ofText_fault_tokens hbehind)

theorem OfNode.ofLoad {f : Fault} (h : OfNode f) : OfLoad f := by
  rcases h with rfl | h
  · exact Or.inl ofText_markup
  · exact Or.inr h

/-- **A text is refused as ill-formed, for a numeric escape beyond all characters, for nodes that are
nested too deep, or for a scalar that does not fit its kind.** -/
theorem raisesOnly_load (text : String) : RaisesOnly OfLoad (load text) := by
  refine raisesOnly_bind.mpr ⟨(raisesOnly_characters text).mono fun _ => Or.inl, fun cs _ => ?_⟩
  refine raisesOnly_bind.mpr
    ⟨(raisesOnly_document (tokens cs)).mono fun _ => OfReading.ofLoad, fun found _ => ?_⟩
  cases found with
  | none => exact raisesOnly_pure _
  | some n =>
    have hcontent : RaisesOnly OfNode n.content :=
      raisesOnly_mapError.mpr (n.failsAsNode_build _ _)
    exact raisesOnly_bind.mpr
      ⟨hcontent.mono fun _ => OfNode.ofLoad, fun v _ => raisesOnly_pure _⟩

end Yaml

end Baseline
