/-
Module: TaskGraph.Proofs.Yaml.Documents
Purpose: The errors with which the tokens of a YAML text are put together to a document: those that
  the tokens tell of, a faulty text, and collections that stand too deep in each other.
Main exports:
  Yaml.Document.State.Sound, Yaml.Document.Reading, Yaml.Document.reading,
  Yaml.Document.failsOnly_read
-/
import TaskGraph.Proofs.Yaml.Tokens
import TaskGraph.Yaml.Document

namespace TaskGraph.Yaml.Document

/-! ### States -/

/-- The tokens still to be read are sound. -/
def State.Sound (s : State) : Prop :=
  ∀ token ∈ s.tokens, token.Sound

/-- A step leaves sound tokens, or fails as it may. -/
abbrev Reads {α : Type} (step : Except Error (α × State)) : Prop :=
  Ends Fault (·.2.Sound) step

section States

variable {s : State} (sound : s.Sound)

include sound

/-- Where the next token does not fit, it is a fault of the text, or tells of one. -/
theorem fault_of_sound : Fault s.fault := by
  unfold State.fault
  split
  · rename_i token rest first
    have tokenSound := sound token (by simp [first])
    cases token with
    | broken e => exact tokenSound
    | _ => exact .notYaml
  · exact .notYaml

theorem sound_rest {token : Token} {rest : List Token} (tokens : s.tokens = token :: rest) :
    ∀ other ∈ rest, other.Sound :=
  fun other member => sound other (by simp [tokens, member])

theorem fault_of_broken {e : Error} (broken : .broken e ∈ s.tokens) : Fault e :=
  sound (.broken e) broken

theorem reads_enter (name : Option String) (node : Node) : Reads (s.enter name node) :=
  .ite sound Fault.tooDeep

end States

/-! ### Names and tags of nodes -/

theorem failsOnly_tagName (handles : Handles) (handle : Option String) (suffix : String) :
    FailsOnly Fault (tagName handles handle suffix) := by
  unfold tagName
  split
  · exact .ok _
  · split
    · exact .ok _
    · exact .error Fault.notYaml

theorem reads_readProperties (handles : Handles) {s : State} (sound : s.Sound) :
    Reads (readProperties handles s) := by
  unfold readProperties
  split
  · rename_i tokens
    refine .of_failsOnly (failsOnly_tagName _ _ _) fun _ token member => sound token ?_
    rw [tokens]
    exact .tail _ (.tail _ member)
  · rename_i tokens
    exact sound_rest sound tokens
  · rename_i tokens
    refine .of_failsOnly (failsOnly_tagName _ _ _) fun _ token member => sound token ?_
    rw [tokens]
    exact .tail _ (.tail _ member)
  · rename_i tokens
    exact fault_of_broken sound (by simp [tokens])
  · rename_i tokens
    exact .of_failsOnly (failsOnly_tagName _ _ _) fun _ => sound_rest sound tokens
  · exact sound

/-! ### Nodes -/

/-- All that reads nodes with some fuel leaves sound tokens, or fails as it may. -/
structure Reading (handles : Handles) (fuel : Nat) : Prop where
  node : ∀ block indentless {s : State}, s.Sound →
    Reads (readNode handles block indentless fuel s)
  content : ∀ block indentless properties {s : State}, s.Sound →
    Reads (readContent handles block indentless fuel properties s)
  optional : ∀ block indentless isEnd {s : State}, s.Sound →
    Reads (readOptional handles block indentless isEnd fuel s)
  blockItems : ∀ found {s : State}, s.Sound → Reads (readBlockItems handles fuel found s)
  indentless : ∀ found {s : State}, s.Sound → Reads (readIndentless handles fuel found s)
  blockEntries : ∀ found {s : State}, s.Sound → Reads (readBlockEntries handles fuel found s)
  value : ∀ block isEnd {s : State}, s.Sound → Reads (readValue handles block isEnd fuel s)
  flowItems : ∀ found {s : State}, s.Sound → Reads (readFlowItems handles fuel found s)
  flowRest : ∀ found {s : State}, s.Sound → Reads (readFlowRest handles fuel found s)
  flowEntries : ∀ found {s : State}, s.Sound → Reads (readFlowEntries handles fuel found s)
  flowEntriesRest : ∀ found {s : State}, s.Sound →
    Reads (readFlowEntriesRest handles fuel found s)

/-- Without fuel everything fails at the next token. -/
theorem reading_zero (handles : Handles) : Reading handles 0 where
  node _ _ _ sound := fault_of_sound sound
  content _ _ _ _ sound := fault_of_sound sound
  optional _ _ _ _ sound := fault_of_sound sound
  blockItems _ _ sound := fault_of_sound sound
  indentless _ _ sound := fault_of_sound sound
  blockEntries _ _ sound := fault_of_sound sound
  value _ _ _ sound := fault_of_sound sound
  flowItems _ _ sound := fault_of_sound sound
  flowRest _ _ sound := fault_of_sound sound
  flowEntries _ _ sound := fault_of_sound sound
  flowEntriesRest _ _ sound := fault_of_sound sound

namespace Reading

variable {handles : Handles} {fuel : Nat} (reading : Reading handles fuel) {s : State}
  (sound : s.Sound)

include reading sound

theorem node_succ (block indentless : Bool) :
    Reads (readNode handles block indentless (fuel + 1) s) := by
  rw [readNode]
  split
  · rename_i tokens
    split
    · exact sound_rest sound tokens
    · exact Fault.notYaml
  · refine .bind (reads_readProperties handles sound) fun _ readSound => ?_
    exact .ite (fault_of_sound readSound) (reading.content _ _ _ readSound)

theorem content_succ (block indentless : Bool) (properties : Properties) :
    Reads (readContent handles block indentless (fuel + 1) properties s) := by
  unfold readContent
  dsimp only
  split
  · exact .bind (reads_enter sound _ _) fun _ entered =>
      .bind (reading.indentless _ entered) fun _ readSound => readSound
  · rename_i tokens
    exact sound_rest sound tokens
  · rename_i tokens
    exact .bind (reads_enter (s := s.goto _) (sound_rest sound tokens) _ _) fun _ entered =>
      .bind (reading.flowItems _ entered) fun _ readSound => readSound
  · rename_i tokens
    exact .bind (reads_enter (s := s.goto _) (sound_rest sound tokens) _ _) fun _ entered =>
      .bind (reading.flowEntries _ entered) fun _ readSound => readSound
  · rename_i tokens
    exact .bind (reads_enter (s := s.goto _) (sound_rest sound tokens) _ _) fun _ entered =>
      .bind (reading.blockItems _ entered) fun _ readSound => readSound
  · rename_i tokens
    exact .bind (reads_enter (s := s.goto _) (sound_rest sound tokens) _ _) fun _ entered =>
      .bind (reading.blockEntries _ entered) fun _ readSound => readSound
  · rename_i tokens
    exact fault_of_broken sound (by simp [tokens])
  · exact .ite (fault_of_sound sound) sound

theorem optional_succ (block indentless : Bool) (isEnd : Token → Bool) :
    Reads (readOptional handles block indentless isEnd (fuel + 1) s) := by
  rw [readOptional]
  exact .ite sound (reading.node _ _ sound)

theorem blockItems_succ (found : List NodeId) :
    Reads (readBlockItems handles (fuel + 1) found s) := by
  rw [readBlockItems]
  split
  · rename_i tokens
    exact .bind (reading.optional _ _ _ (sound_rest sound tokens)) fun _ readSound =>
      reading.blockItems _ readSound
  · rename_i tokens
    exact sound_rest sound tokens
  · exact fault_of_sound sound

theorem indentless_succ (found : List NodeId) :
    Reads (readIndentless handles (fuel + 1) found s) := by
  rw [readIndentless]
  split
  · rename_i tokens
    exact .bind (reading.optional _ _ _ (sound_rest sound tokens)) fun _ readSound =>
      reading.indentless _ readSound
  · exact sound

theorem blockEntries_succ (found : List (NodeId × NodeId)) :
    Reads (readBlockEntries handles (fuel + 1) found s) := by
  rw [readBlockEntries]
  split
  · rename_i tokens
    exact .bind (reading.optional _ _ _ (sound_rest sound tokens)) fun _ keySound =>
      .bind (reading.value _ _ keySound) fun _ readSound => reading.blockEntries _ readSound
  · rename_i tokens
    exact sound_rest sound tokens
  · exact fault_of_sound sound

theorem value_succ (block : Bool) (isEnd : Token → Bool) :
    Reads (readValue handles block isEnd (fuel + 1) s) := by
  rw [readValue]
  split
  · rename_i tokens
    exact reading.optional _ _ _ (sound_rest sound tokens)
  · exact sound

theorem flowItems_succ (found : List NodeId) :
    Reads (readFlowItems handles (fuel + 1) found s) := by
  rw [readFlowItems]
  split
  · rename_i tokens
    exact sound_rest sound tokens
  · rename_i tokens
    refine .bind (reads_enter (s := s.goto _) (sound_rest sound tokens) _ _) fun _ entered => ?_
    exact .bind (reading.optional _ _ _ entered) fun _ keySound =>
      .bind (reading.value _ _ keySound) fun _ readSound => reading.flowRest _ readSound
  · exact .bind (reading.node _ _ sound) fun _ readSound => reading.flowRest _ readSound

theorem flowRest_succ (found : List NodeId) :
    Reads (readFlowRest handles (fuel + 1) found s) := by
  rw [readFlowRest]
  split
  · rename_i tokens
    exact sound_rest sound tokens
  · rename_i tokens
    exact reading.flowItems _ (sound_rest sound tokens)
  · exact fault_of_sound sound

theorem flowEntries_succ (found : List (NodeId × NodeId)) :
    Reads (readFlowEntries handles (fuel + 1) found s) := by
  rw [readFlowEntries]
  split
  · rename_i tokens
    exact sound_rest sound tokens
  · rename_i tokens
    exact .bind (reading.optional _ _ _ (sound_rest sound tokens)) fun _ keySound =>
      .bind (reading.value _ _ keySound) fun _ readSound => reading.flowEntriesRest _ readSound
  · exact .bind (reading.node _ _ sound) fun _ readSound => reading.flowEntriesRest _ readSound

theorem flowEntriesRest_succ (found : List (NodeId × NodeId)) :
    Reads (readFlowEntriesRest handles (fuel + 1) found s) := by
  rw [readFlowEntriesRest]
  split
  · rename_i tokens
    exact sound_rest sound tokens
  · rename_i tokens
    exact reading.flowEntries _ (sound_rest sound tokens)
  · exact fault_of_sound sound

omit sound in
theorem succ : Reading handles (fuel + 1) where
  node _ _ _ sound := reading.node_succ sound _ _
  content _ _ _ _ sound := reading.content_succ sound _ _ _
  optional _ _ _ _ sound := reading.optional_succ sound _ _ _
  blockItems _ _ sound := reading.blockItems_succ sound _
  indentless _ _ sound := reading.indentless_succ sound _
  blockEntries _ _ sound := reading.blockEntries_succ sound _
  value _ _ _ sound := reading.value_succ sound _ _
  flowItems _ _ sound := reading.flowItems_succ sound _
  flowRest _ _ sound := reading.flowRest_succ sound _
  flowEntries _ _ sound := reading.flowEntries_succ sound _
  flowEntriesRest _ _ sound := reading.flowEntriesRest_succ sound _

end Reading

/-- With any fuel, by induction: each function calls the others with less. -/
theorem reading (handles : Handles) (fuel : Nat) : Reading handles fuel := by
  induction fuel with
  | zero => exact reading_zero handles
  | succ fuel inductionHypothesis => exact inductionHypothesis.succ

/-! ### Documents -/

theorem ends_readDirectives (seenVersion : Bool) (handles : Handles) {tokens : List Token}
    (sound : ∀ token ∈ tokens, token.Sound) :
    Ends Fault (fun read => ∀ token ∈ read.2, token.Sound)
      (readDirectives seenVersion handles tokens) := by
  induction tokens generalizing seenVersion handles with
  | nil => exact sound
  | cons token rest inductionHypothesis =>
      have later := (List.forall_mem_cons.mp sound).2
      cases token with
      | version major minor => exact .ite Fault.notYaml (inductionHypothesis _ _ later)
      | handle name stem => exact .ite Fault.notYaml (inductionHypothesis _ _ later)
      | otherDirective => exact inductionHypothesis _ _ later
      | _ => exact sound

theorem sound_dropEnds {tokens : List Token} (sound : ∀ token ∈ tokens, token.Sound) :
    ∀ token ∈ dropEnds tokens, token.Sound := by
  induction tokens with
  | nil => exact sound
  | cons token rest inductionHypothesis =>
      cases token with
      | documentEnd => exact inductionHypothesis (List.forall_mem_cons.mp sound).2
      | _ => exact sound

theorem failsOnly_finish (root : NodeId) {s : State} (sound : s.Sound) :
    FailsOnly Fault (finish root s) := by
  have rest := sound_dropEnds sound
  unfold finish
  split
  · exact .ok _
  · exact .of_ends (ends_readDirectives _ _ rest) fun _ later =>
      .error (fault_of_sound (s := s.goto _) later)

/-- Tokens fail to make a document as they may. -/
theorem failsOnly_read {tokens : List Token} (sound : ∀ token ∈ tokens, token.Sound) :
    FailsOnly Fault (read tokens) := by
  unfold read
  dsimp only
  split
  · exact .error Fault.notYaml
  · exact .ok _
  · refine .ite (.of_ends (ends_readDirectives _ _ sound) fun _ later => ?_) ?_
    · split
      · rename_i content announced
        rw [announced] at later
        exact .of_ends ((reading _ _).optional _ _ _ (List.forall_mem_cons.mp later).2)
          fun _ readSound => failsOnly_finish _ readSound
      · exact .error (fault_of_sound (s := { tokens := _ }) later)
    · exact .of_ends ((reading _ _).node _ _ sound) fun _ readSound => failsOnly_finish _ readSound

end TaskGraph.Yaml.Document
