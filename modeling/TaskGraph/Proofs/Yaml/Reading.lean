/-
Module: TaskGraph.Proofs.Yaml.Reading
Purpose: The errors with which the scalars and collections of a YAML document are read as values,
  and those of a whole text.
Main exports:
  Yaml.Scalar.failsOnly_value, Yaml.Nodes.failsOnly_construct, Yaml.failsOnly_read
-/
import TaskGraph.Proofs.Yaml.Documents
import TaskGraph.Yaml.Reader

namespace TaskGraph.Yaml

/-! ### Scalars -/

namespace Scalar

theorem failsOnly_inBase (base : Nat) (digits : List Symbol) :
    FailsOnly Fault ((Text.readInteger base digits).mapError Error.numeral) :=
  .mapError .numeral

theorem failsOnly_unsigned (text : List Symbol) : FailsOnly Fault (unsigned text) := by
  unfold unsigned
  dsimp only
  split
  · exact .error Fault.emptyScalar
  · exact .ok _
  · exact failsOnly_inBase _ _
  · exact failsOnly_inBase _ _
  · exact failsOnly_inBase _ _
  · exact .ite (.bind (.mapM fun _ _ => failsOnly_inBase _ _) fun _ _ => .ok _)
      (failsOnly_inBase _ _)

theorem failsOnly_int (text : List Symbol) : FailsOnly Fault (int text) := by
  unfold int
  split
  · exact .error Fault.emptyScalar
  · exact .map (failsOnly_unsigned _)
  · exact .map (failsOnly_unsigned _)
  · exact .map (failsOnly_unsigned _)

theorem failsOnly_decimal (text : List Symbol) : FailsOnly Fault (decimal text) := by
  unfold decimal
  split
  · exact .ok _
  · exact .error (Fault.notNumber _)

theorem failsOnly_addSixtieths (unit : Nat) (sum : Binary64) (digits : List Binary64) :
    FailsOnly Fault (addSixtieths unit sum digits) := by
  induction digits generalizing unit sum with
  | nil => exact .ok _
  | cons digit rest inductionHypothesis =>
      rw [addSixtieths]
      split
      · exact inductionHypothesis _ _
      · exact .error Fault.tooLarge

theorem failsOnly_unsignedFloat (mark : Nat) (text : List Symbol) :
    FailsOnly Fault (unsignedFloat mark text) := by
  refine .ite (.ok _) (.ite (.ok _) (.ite ?_ (.map (failsOnly_decimal _))))
  exact .bind (.mapM fun _ _ => failsOnly_decimal _) fun _ _ =>
    .bind (failsOnly_addSixtieths _ _ _) fun _ _ => .ok _

theorem failsOnly_float (mark : Nat) (text : List Symbol) : FailsOnly Fault (float mark text) := by
  unfold float
  dsimp only
  split
  · exact .error Fault.emptyScalar
  · exact .map (failsOnly_unsignedFloat _ _)
  · exact .map (failsOnly_unsignedFloat _ _)
  · exact .map (failsOnly_unsignedFloat _ _)

theorem failsOnly_bool (text : List Symbol) : FailsOnly Fault (bool text) := by
  unfold bool
  dsimp only
  split
  · exact .ok _
  · exact .error (Fault.missingKey _)

theorem failsOnly_binary (text : List Symbol) : FailsOnly Fault (binary text) := by
  unfold binary
  split
  · exact .error Fault.notYaml
  · refine .ite ?_ (.error Fault.notYaml)
    split
    · exact .ok _
    · exact .error Fault.notYaml

theorem failsOnly_timestamp (text : List Symbol) : FailsOnly Fault (timestamp text) := by
  unfold timestamp
  split
  · exact .mapError .calendar
  · exact .error Fault.wrongShape

theorem failsOnly_value (tag : Tag) (mark : Nat) (text : List Symbol) :
    FailsOnly Fault (value tag mark text) := by
  cases tag with
  | null => exact .ok _
  | bool => exact failsOnly_bool text
  | int => exact failsOnly_int text
  | float => exact failsOnly_float mark text
  | binary => exact failsOnly_binary text
  | timestamp => exact failsOnly_timestamp text
  | text => exact .ok _
  | _ => exact .error Fault.notYaml

end Scalar

/-! ### Nodes -/

namespace Nodes

theorem failsOnly_scalarText (nodes : Nodes) (levels : Nat) (id : NodeId) :
    FailsOnly Fault (nodes.scalarText levels id) := by
  induction levels generalizing id with
  | zero => exact .error Fault.tooDeep
  | succ levels inductionHypothesis =>
      rw [scalarText]
      split
      · exact .ok _
      · exact .error Fault.notYaml
      · split
        · exact inductionHypothesis _
        · exact .error Fault.notYaml

/-- Merging fails where there is no mapping to merge, or too many are merged through each other. -/
theorem failsOnly_flattenFrom (fuel levels : Nat) (id : NodeId) (merged : Entries)
    (nodes : Nodes) : FailsOnly Fault (flattenFrom fuel levels id merged nodes) := by
  induction fuel generalizing levels id merged nodes with
  | zero => exact .error Fault.notYaml
  | succ fuel inductionHypothesis =>
      have source (nodes : Nodes) (id : NodeId) : FailsOnly Fault
          (if levels = 0 then .error .tooDeep
          else if (nodes.node id).isMapping then do
            let nodes ← flattenFrom fuel (levels - 1) id [] nodes
            .ok ((nodes.node id).entries, nodes)
          else .error .notYaml) :=
        .ite (.error Fault.tooDeep) (.ite (.bind (inductionHypothesis _ _ _ _) fun _ _ => .ok _)
          (.error Fault.notYaml))
      rw [flattenFrom]
      dsimp only
      split
      · exact .ok _
      · split
        · exact .error Fault.notYaml
        · split
          · exact .error Fault.notYaml
          · exact .bind (source _ _) fun _ _ => inductionHypothesis _ _ _ _
          · refine .bind (.foldlM fun _ _ _ => ?_) fun _ _ => inductionHypothesis _ _ _ _
            exact .bind (source _ _) fun _ _ => .ok _

end Nodes

/-! ### Construction -/

namespace Construct

/-- Steps fail as they may, whatever the state. -/
def Fails {α : Type} (steps : Construct α) : Prop :=
  ∀ state, FailsOnly Fault (steps.run state)

namespace Fails

variable {α β : Type}

theorem pure (a : α) : Fails (Pure.pure a) :=
  fun _ => .ok _

theorem get : Fails (MonadState.get : Construct Construction) :=
  fun _ => .ok _

theorem set (state : Construction) : Fails (MonadStateOf.set state) :=
  fun _ => .ok _

theorem modify (change : Construction → Construction) :
    Fails (modify change : Construct PUnit) :=
  fun _ => .ok _

theorem notYaml : Fails (throw .notYaml : Construct α) :=
  fun _ => .error Fault.notYaml

theorem lift {x : Except Error α} (fails : FailsOnly Fault x) :
    Fails (liftM x : Construct α) :=
  fun _ => .bind fails fun _ _ => .ok _

theorem bind {steps : Construct α} {next : α → Construct β} (before : Fails steps)
    (after : ∀ a, Fails (next a)) : Fails (steps >>= next) :=
  fun state => .bind (before state) fun _ _ => after _ _

theorem mapM {f : α → Construct β} (each : ∀ a, Fails (f a)) (xs : List α) :
    Fails (xs.mapM f) := by
  induction xs with
  | nil =>
      rw [List.mapM_nil]
      exact .pure _
  | cons x rest inductionHypothesis =>
      rw [List.mapM_cons]
      exact .bind (each x) fun _ => .bind inductionHypothesis fun _ => .pure _

end Fails

theorem failsOnly_scalarValue (nodes : Nodes) (id : NodeId) :
    FailsOnly Fault (scalarValue nodes id) :=
  .bind (nodes.failsOnly_scalarText _ _) fun _ _ =>
    .ite (.error Fault.illTyped) (Scalar.failsOnly_value _ _ _)

theorem fails_part (id : NodeId) : Fails (part id) := by
  refine .bind .get fun state => ?_
  dsimp only
  split
  · exact .pure _
  · split
    · exact .bind (.set _) fun _ => .pure _
    · exact .bind (.lift (failsOnly_scalarValue _ _)) fun _ => .bind (.set _) fun _ => .pure _

theorem fails_key (id : NodeId) : Fails (key id) := by
  refine .bind (fails_part id) fun found => ?_
  split
  · exact .pure _
  · exact .notYaml

theorem fails_mapEntries (id : NodeId) : Fails (mapEntries id) := by
  refine .bind .get fun state => ?_
  dsimp only
  split
  · refine .bind (.lift (Nodes.failsOnly_flattenFrom _ _ _ _ _)) fun _ => ?_
    refine .bind (.set _) fun _ => .mapM (fun _ => ?_) _
    exact .bind (fails_key _) fun _ => .bind (fails_part _) fun _ => .pure _
  · exact .notYaml

theorem fails_pairOf (id : NodeId) : Fails (pairOf id) := by
  refine .bind .get fun state => ?_
  split
  · exact .bind (fails_part _) fun _ => .bind (fails_part _) fun _ => .pure _
  · exact .notYaml

theorem fails_contentsOf (id : NodeId) : Fails (contentsOf id) := by
  refine .bind .get fun state => ?_
  dsimp only
  split
  · exact .bind (.mapM fails_part _) fun _ => .pure _
  · exact .bind (fails_mapEntries _) fun _ => .pure _
  · exact .bind (fails_mapEntries _) fun _ => .pure _
  · exact .bind (.mapM fails_pairOf _) fun _ => .pure _
  · exact .notYaml

theorem fails_fillFrom (fuel place : Nat) : Fails (fillFrom fuel place) := by
  induction fuel generalizing place with
  | zero => exact .pure _
  | succ fuel inductionHypothesis =>
      refine .bind .get fun state => ?_
      split
      · exact .pure _
      · exact .bind (fails_contentsOf _) fun _ =>
          .bind (.modify _) fun _ => inductionHypothesis _

end Construct

theorem Nodes.failsOnly_construct (nodes : Nodes) (root : NodeId) :
    FailsOnly Fault (nodes.construct root) := by
  have steps : Construct.Fails (do
      let part ← Construct.part root
      Construct.fillFrom nodes.size 0
      pure part) :=
    .bind (Construct.fails_part _) fun _ => .bind (Construct.fails_fillFrom _ _) fun _ => .pure _
  exact .bind (steps _) fun _ _ => .ok _

/-! ### The whole text -/

/-- A text that is not read as YAML ends with one of these errors. -/
theorem failsOnly_read (text : List Char) : FailsOnly Fault (read text) := by
  refine .ite (.bind (Document.failsOnly_read (sound_tokens _)) fun found _ => ?_)
    (.error Fault.notYaml)
  cases found with
  | some document => exact .bind (Nodes.failsOnly_construct _ _) fun _ _ => .ok _
  | none => exact .ok _

/-- Short texts lead to all of these errors but the one for levels. -/
example :
    (["\x7b", "\"\\U80000000\"", "\"\\U00110000\"", "!!int x", "!!float x", "!!int _", "!!bool x",
        "2001-13-01", "!!timestamp x", "!!timestamp \x7b=: 2001-01-01\x7d"].map fun text =>
      (faultOf? (read text.toList)).map Error.message) =
      [.notYaml, .tooLarge, .notACodePoint, .numeral (.malformed 10 "x"),
        .notNumber "x", .emptyScalar, .missingKey "x", .calendar .month, .wrongShape,
        .illTyped].map fun e => some (Error.message e) := by
  decide +kernel

end TaskGraph.Yaml
