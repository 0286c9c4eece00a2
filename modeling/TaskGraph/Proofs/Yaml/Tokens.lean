/-
Module: TaskGraph.Proofs.Yaml.Tokens
Purpose: The errors with which a YAML text is cut into tokens: a faulty text, and numbers that are
  too long or too large.
Main exports:
  Yaml.Fault, Yaml.Token.Sound, Yaml.Lexer.steps_fetch, Yaml.sound_tokens
-/
import TaskGraph.Proofs.Failure
import TaskGraph.Yaml.Lexer

namespace TaskGraph.Yaml

/-- The errors with which the reading of a YAML text ends. -/
inductive Fault : Error → Prop
  /-- The text does not follow the grammar, or a node is not of the kind that is needed. -/
  | notYaml : Fault .notYaml
  /-- Collections, merged mappings or defaults stand too deep in each other. -/
  | tooDeep : Fault .tooDeep
  /-- An escape writes a number beyond all integers of the machine, or the unit of a digit of base
  sixty is beyond all floating-point numbers. -/
  | tooLarge : Fault .tooLarge
  /-- An escape writes a number that is none of a character. -/
  | notACodePoint : Fault .notACodePoint
  /-- A number has too many digits, or a text with the tag of a number writes none. -/
  | numeral (fault : Text.NumeralError) : Fault (.numeral fault)
  | notNumber (text : Text) : Fault (.notNumber text)
  /-- Nothing is left of a number without its underscores. -/
  | emptyScalar : Fault .emptyScalar
  /-- A text with the tag of a truth value is not the word for one. -/
  | missingKey (word : Text) : Fault (.missingKey word)
  /-- A day or a time does not exist. -/
  | calendar (fault : CalendarFault) : Fault (.calendar fault)
  /-- A text with the tag of a moment does not write one. -/
  | wrongShape : Fault .wrongShape
  /-- A mapping has the tag of a moment. -/
  | illTyped : Fault .illTyped

/-- A token tells of no other error. -/
def Token.Sound : Token → Prop
  | .broken e => Fault e
  | _ => True

/-! ### Names, tags and directives -/

section Properties

variable (c : Cursor)

theorem failsOnly_readName : FailsOnly Fault (readName c) :=
  .ite (.error Fault.notYaml) (.ok _)

theorem failsOnly_readHandle : FailsOnly Fault (readHandle c) := by
  unfold readHandle
  split
  · exact .ok _
  · exact .ite (.ok _) (.error Fault.notYaml)
  · exact .error Fault.notYaml

theorem failsOnly_escapedBytes (fuel : Nat) (found : List UInt8) :
    FailsOnly Fault (escapedBytes fuel found c) := by
  induction fuel generalizing found c with
  | zero => exact .ok _
  | succ fuel inductionHypothesis =>
      rw [escapedBytes]
      split
      · split
        · exact inductionHypothesis _ _
        · exact .error Fault.notYaml
      · exact .error Fault.notYaml
      · exact .ok _

theorem failsOnly_uriFrom (fuel : Nat) (found : List Char) :
    FailsOnly Fault (uriFrom fuel found c) := by
  induction fuel generalizing found c with
  | zero => exact .ok _
  | succ fuel inductionHypothesis =>
      refine .ite (.bind (failsOnly_escapedBytes _ _ _) fun _ _ => ?_) (.ok _)
      exact .bind (.mapError fun _ => .notYaml) fun _ _ => inductionHypothesis _ _

theorem failsOnly_readUri : FailsOnly Fault (readUri c) := by
  unfold readUri
  split
  · exact .error Fault.notYaml
  · exact .ite (.bind (failsOnly_uriFrom _ _ _) fun _ _ => .ok _) (.error Fault.notYaml)

theorem failsOnly_tagParts : FailsOnly Fault (tagParts c) := by
  unfold tagParts
  split
  · exact .bind (failsOnly_readUri _) fun _ _ => .ite (.ok _) (.error Fault.notYaml)
  · have suffixed (read : String × Cursor) : FailsOnly Fault (do
        let tail ← readUri read.2
        return (some read.1, tail.1, tail.2)) :=
      .bind (failsOnly_readUri _) fun _ _ => .ok _
    exact .ite (.ok _) (.ite (.bind (failsOnly_readHandle c) fun _ _ => suffixed _)
      (.bind (.ok _) fun _ _ => suffixed _))

theorem ends_readTag : Ends Fault (·.1.Sound) (readTag c) :=
  .of_failsOnly (failsOnly_tagParts c) fun _ => .ite trivial Fault.notYaml

theorem failsOnly_versionNumber : FailsOnly Fault (versionNumber c) :=
  .ite (.error Fault.notYaml) (.bind (.mapError .numeral) fun _ _ => .ok _)

theorem ends_versionDirective : Ends Fault (·.1.Sound) (versionDirective c) :=
  .of_failsOnly (failsOnly_versionNumber _) fun _ =>
    .ite (.of_failsOnly (failsOnly_versionNumber _) fun _ => .ite trivial Fault.notYaml)
      Fault.notYaml

theorem ends_handleDirective : Ends Fault (·.1.Sound) (handleDirective c) :=
  .of_failsOnly (failsOnly_readHandle _) fun _ =>
    .ite (.of_failsOnly (failsOnly_readUri _) fun _ => .ite trivial Fault.notYaml) Fault.notYaml

theorem ends_readDirective : Ends Fault (·.1.Sound) (readDirective c) := by
  unfold readDirective
  dsimp only
  refine .ite Fault.notYaml ?_
  split
  · exact .bind (ends_versionDirective _) fun _ sound => .ite sound Fault.notYaml
  split
  · exact .bind (ends_handleDirective _) fun _ sound => .ite sound Fault.notYaml
  · exact .ite trivial Fault.notYaml

end Properties

/-! ### Scalars -/

namespace Quoted

theorem failsOnly_emptyLines (fuel : Nat) (found : List Char) (c : Cursor) :
    FailsOnly Fault (emptyLines fuel found c) := by
  induction fuel generalizing found c with
  | zero => exact .error Fault.notYaml
  | succ fuel inductionHypothesis =>
      exact .ite (.error Fault.notYaml) (.ite (.ok _) (inductionHypothesis _ _))

theorem failsOnly_gap (c : Cursor) : FailsOnly Fault (gap c) :=
  .ite (.error Fault.notYaml)
    (.ite (.bind (failsOnly_emptyLines _ _ _) fun _ _ => .ok _) (.ok _))

theorem failsOnly_readCode (digits : List Char) (width : Nat) :
    FailsOnly Fault (readCode digits width) := by
  unfold readCode
  split
  · exact .error Fault.notYaml
  · exact .ite (.ok _) (.ite (.error Fault.notACodePoint) (.error Fault.tooLarge))

theorem failsOnly_escape (c : Cursor) : FailsOnly Fault (escape c) := by
  unfold escape
  split
  · exact .error Fault.notYaml
  · split
    · exact .ok _
    · exact .bind (failsOnly_readCode _ _) fun _ _ => .ok _
    · exact .ite (.bind (failsOnly_emptyLines _ _ _) fun _ _ => .ok _) (.error Fault.notYaml)

theorem failsOnly_readFrom (double : Bool) (fuel : Nat) (found : List Symbol) (c : Cursor) :
    FailsOnly Fault (readFrom double fuel found c) := by
  induction fuel generalizing found c with
  | zero => exact .error Fault.notYaml
  | succ fuel inductionHypothesis =>
      rw [readFrom]
      split
      · exact .error Fault.notYaml
      · refine .ite ?_ (.ite ?_ (.ite (inductionHypothesis _ _)
          (.ite (.ok _) (inductionHypothesis _ _))))
        · exact .bind (failsOnly_gap _) fun _ _ => inductionHypothesis _ _
        · exact .bind (failsOnly_escape _) fun _ _ => inductionHypothesis _ _

end Quoted

theorem Block.failsOnly_read (folded : Bool) (least : Nat) (c : Cursor) :
    FailsOnly Fault (read folded least c) :=
  .bind (.ite (.error Fault.notYaml) (.ite (.ok _) (.error Fault.notYaml))) fun _ _ => .ok _

/-! ### The lexer -/

namespace Lexer

/-- The tokens that are held back are sound. -/
def Sound (l : Lexer) : Prop :=
  ∀ token ∈ l.pending, token.Sound

/-- A step of the lexer keeps the tokens sound, or fails as it may. -/
abbrev Steps (step : Except Error Lexer) : Prop :=
  Ends Fault Sound step

variable {l : Lexer} (sound : l.Sound)

include sound

theorem sound_append {more : List Token} (moreSound : ∀ token ∈ more, token.Sound) :
    ∀ token ∈ l.pending ++ more, token.Sound :=
  List.forall_mem_append.mpr ⟨sound, moreSound⟩

theorem sound_push {token : Token} (tokenSound : token.Sound) :
    ∀ other ∈ l.pending ++ [token], other.Sound :=
  sound_append sound (List.forall_mem_singleton.mpr tokenSound)

theorem sound_unwind (column : Nat) : (l.unwind column).Sound := by
  unfold unwind
  split
  · exact sound_append sound (List.forall_mem_map.mpr fun _ _ => trivial)
  · exact sound

theorem sound_unwindAll : l.unwindAll.Sound := by
  unfold unwindAll
  split
  · exact sound_append sound (List.forall_mem_map.mpr fun _ _ => trivial)
  · exact sound

/-- A token is put among those that are held back. -/
theorem sound_inserted (token : Token) (tokenSound : token.Sound) (place : Nat) :
    ∀ other ∈ l.pending.take place ++ token :: l.pending.drop place, other.Sound :=
  List.forall_mem_append.mpr ⟨fun other member => sound other (List.mem_of_mem_take member),
    List.forall_mem_cons.mpr
      ⟨tokenSound, fun other member => sound other (List.mem_of_mem_drop member)⟩⟩

theorem sound_openBlock (token : Token) (tokenSound : token.Sound) (column place : Nat) :
    (l.openBlock column place token).Sound := by
  unfold openBlock
  split
  · exact sound_inserted sound token tokenSound place
  · exact sound

theorem sound_toNextToken (fuel : Nat) : (toNextToken fuel l).Sound := by
  induction fuel generalizing l with
  | zero => exact sound
  | succ fuel inductionHypothesis =>
      rw [toNextToken]
      split
      · exact sound
      · exact inductionHypothesis sound

theorem steps_dropStale : Steps l.dropStale :=
  .ite Fault.notYaml fun token member => sound token member

theorem steps_dropKey : Steps l.dropKey :=
  .ite Fault.notYaml fun token member => sound token member

theorem steps_saveKey : Steps l.saveKey :=
  .ite (.bind (steps_dropKey sound) fun _ kept => kept) sound

theorem steps_finish : Steps l.finish :=
  .bind (steps_dropKey (sound_unwindAll sound)) fun _ kept => sound_push kept trivial

theorem steps_directive : Steps l.directive :=
  .bind (steps_dropKey (sound_unwindAll sound)) fun _ kept =>
    .bind (ends_readDirective _) fun _ tokenSound => sound_push kept tokenSound

section Pushing

variable {token : Token} (tokenSound : token.Sound)

include tokenSound

theorem steps_marker : Steps (l.marker token) :=
  .bind (steps_dropKey (sound_unwindAll sound)) fun _ kept => sound_push kept tokenSound

theorem steps_openFlow : Steps (l.openFlow token) :=
  .bind (steps_saveKey sound) fun _ kept => sound_push kept tokenSound

theorem steps_closeFlow : Steps (l.closeFlow token) :=
  .bind (steps_dropKey sound) fun _ kept => sound_push kept tokenSound

end Pushing

theorem steps_separator : Steps l.separator :=
  .bind (steps_dropKey sound) fun _ kept => sound_push kept trivial

theorem steps_entry : Steps l.entry :=
  .ite Fault.notYaml (.bind
    (steps_dropKey (sound_openBlock sound .blockSequence trivial _ _))
    fun _ kept => sound_push kept trivial)

theorem steps_explicitKey : Steps l.explicitKey :=
  .ite Fault.notYaml (.bind
    (steps_dropKey (sound_openBlock sound .blockMapping trivial _ _))
    fun _ kept => sound_push kept trivial)

theorem steps_value : Steps l.value := by
  unfold value
  split
  · rename_i key _
    have inserted : Sound { l with
        keys := l.keys.filter fun entry => entry.1 != l.depth
        pending := l.pending.take (key.number - l.taken) ++ .key ::
          l.pending.drop (key.number - l.taken) } := sound_inserted sound .key trivial _
    exact sound_push (sound_openBlock inserted .blockMapping trivial _ _) trivial
  · exact .ite Fault.notYaml (sound_push (sound_openBlock sound .blockMapping trivial _ _) trivial)

theorem steps_node {read : Cursor → Except Error (Token × Cursor)}
    (reads : ∀ c, Ends Fault (·.1.Sound) (read c)) : Steps (l.node read) :=
  .bind (steps_saveKey sound) fun _ kept =>
    .bind (reads _) fun _ tokenSound => sound_push kept tokenSound

theorem steps_blockScalar (folded : Bool) : Steps (l.blockScalar folded) :=
  .bind (steps_dropKey sound) fun _ kept =>
    .of_failsOnly (Block.failsOnly_read _ _ _) fun _ => sound_push kept trivial

theorem steps_plainScalar : Steps l.plainScalar :=
  .bind (steps_saveKey sound) fun _ kept => sound_push kept trivial

/-- One case for each kind of token, in the order in which they are tried. -/
theorem steps_token (first : Char) (rest : List Char) : Steps (l.token first rest) := by
  refine .ite (steps_directive sound) ?_
  refine .ite (steps_marker sound trivial) ?_
  refine .ite (steps_marker sound trivial) ?_
  refine .ite (steps_openFlow sound trivial) ?_
  refine .ite (steps_openFlow sound trivial) ?_
  refine .ite (steps_closeFlow sound trivial) ?_
  refine .ite (steps_closeFlow sound trivial) ?_
  refine .ite (steps_separator sound) ?_
  refine .ite (steps_entry sound) ?_
  refine .ite (steps_explicitKey sound) ?_
  refine .ite (steps_value sound) ?_
  refine .ite (steps_node sound fun c => .of_failsOnly (failsOnly_readName c) fun _ => trivial) ?_
  refine .ite (steps_node sound fun c => .of_failsOnly (failsOnly_readName c) fun _ => trivial) ?_
  refine .ite (steps_node sound ends_readTag) ?_
  refine .ite (steps_blockScalar sound false) ?_
  refine .ite (steps_blockScalar sound true) ?_
  refine .ite (steps_node sound fun c =>
    .of_failsOnly (Quoted.failsOnly_readFrom _ _ _ _) fun _ => trivial) ?_
  exact .ite (steps_plainScalar sound) Fault.notYaml

theorem steps_fetch : Steps l.fetch := by
  refine .bind (steps_dropStale (sound_toNextToken sound _)) fun l' kept => ?_
  have unwound := sound_unwind kept l'.cursor.column
  dsimp only
  split
  · exact steps_finish unwound
  · exact steps_token unwound _ _

omit sound in
theorem sound_broken {found : List Token} (foundSound : ∀ token ∈ found, token.Sound) {e : Error}
    (fault : Fault e) : ∀ token ∈ (Token.broken e :: found).reverse, token.Sound := by
  have all : ∀ token ∈ Token.broken e :: found, token.Sound :=
    List.forall_mem_cons.mpr ⟨fault, foundSound⟩
  exact fun token member => all token (List.mem_reverse.mp member)

/-- Tokens that are no longer held back are handed out. -/
theorem sound_handedOut {found : List Token} (foundSound : ∀ token ∈ found, token.Sound)
    (n : Nat) : ∀ token ∈ (l.pending.take n).reverse ++ found, token.Sound :=
  List.forall_mem_append.mpr ⟨fun token member =>
    sound token (List.mem_of_mem_take (List.mem_reverse.mp member)), foundSound⟩

/-- All tokens are sound, also the last one, which tells of the fault if there is one. -/
theorem sound_run {found : List Token} (foundSound : ∀ token ∈ found, token.Sound) (fuel : Nat) :
    ∀ token ∈ run fuel found l, token.Sound := by
  induction fuel generalizing found l with
  | zero => exact sound_broken foundSound .notYaml
  | succ fuel inductionHypothesis =>
      rw [run]
      have fetched := steps_fetch sound
      cases next : l.fetch with
      | error e =>
          rw [next] at fetched
          exact sound_broken foundSound fetched
      | ok l' =>
          rw [next] at fetched
          dsimp only
          split
          · intro token member
            have handedOut := sound_handedOut fetched foundSound l'.pending.length
            rw [List.take_length] at handedOut
            exact handedOut token (List.mem_reverse.mp member)
          · have stale := steps_dropStale fetched
            split
            · rename_i e failed
              rw [failed] at stale
              exact sound_broken foundSound stale
            · rename_i kept returned
              rw [returned] at stale
              exact inductionHypothesis
                (fun token member => stale token (List.mem_of_mem_drop member))
                (sound_handedOut stale foundSound _)

end Lexer

theorem sound_tokens (text : List Char) : ∀ token ∈ tokens text, token.Sound := by
  have start (c : Cursor) : Lexer.Sound { cursor := c } := List.forall_mem_nil _
  exact Lexer.sound_run (start _) (List.forall_mem_nil _) _

end TaskGraph.Yaml
