/-
Module: TaskGraph.Proofs.CommandLine.Printing
Purpose: What a command runs on, as far as it matters for files: a disk, and streams that may refuse
  any text.
Main exports:
  Host, Host.platform, Host.Refuses, Host.Prints, Host.prints, Files.Tree.host
-/
import TaskGraph.CommandLine
import TaskGraph.Proofs.Files.Interruption

namespace TaskGraph

open Files

/-- A disk with streams and some memory.  The streams may refuse any text at any time, and have no
part in the files. -/
structure Host (σ : Type) extends Disk σ where
  print : Stream → Text → StateM σ (Except Error Unit)
  memory : Nat
  printed : ∀ {stream text s result next}, (print stream text).run s = (result, next) →
    tree next = tree s

namespace Host

variable {σ : Type} (host : Host σ)

/-- The platform that a host is to a command. -/
def platform : Platform (StateM σ) where
  files := host.system
  print := host.print
  memory := host.memory

/-- A stream refuses a text in some state. -/
def Refuses (stream : Stream) (text : Text) (error : Error) : Prop :=
  ∃ s next, (host.print stream text).run s = (.error error, next)

/-- What a stream has taken of some texts by the time at which printing them ends: all of them, or
those before the first one that it refused. -/
def Prints (stream : Stream) (texts : List Text) (taken : Text) (result : Except Error Unit) :
    Prop :=
  match result with
  | .ok () => taken = Text.concat texts
  | .error error => ∃ before refused after, texts = before ++ refused :: after ∧
      taken = Text.concat before ∧ host.Refuses stream refused error

variable {host} {stream : Stream} {s next : σ} {taken : Text} {result : Except Error Unit}

/-- Texts are printed up to the first one that is refused, and the files stay as they were. -/
theorem prints {texts : List Text}
    (run : (host.platform.printAll stream texts).run s = ((taken, result), next)) :
    host.tree next = host.tree s ∧ host.Prints stream texts taken result := by
  induction texts generalizing s taken with
  | nil =>
      obtain ⟨⟨⟩, rfl⟩ := run_pure_eq.mp run
      exact ⟨rfl, rfl⟩
  | cons text rest inductionHypothesis =>
      obtain ⟨printed, middle, printing, run⟩ := run_bind_eq.mp run
      have same := host.printed printing
      cases printed with
      | error error =>
          obtain ⟨⟨⟩, rfl⟩ := run_pure_eq.mp run
          exact ⟨same, [], text, rest, rfl, rfl, s, middle, printing⟩
      | ok done =>
          obtain ⟨⟨later, _⟩, last, printingRest, run⟩ := run_bind_eq.mp run
          obtain ⟨⟨⟩, rfl⟩ := run_pure_eq.mp run
          obtain ⟨still, prints⟩ := inductionHypothesis printingRest
          refine ⟨still.trans same, ?_⟩
          cases result with
          | ok done =>
              rw [show later = _ from prints]
              rfl
          | error error =>
              obtain ⟨before, refused, after, rfl, rfl, refuses⟩ := prints
              exact ⟨text :: before, refused, after, rfl, rfl, refuses⟩

/-- Texts that a stream refuses in no state are all printed. -/
theorem Prints.eq_ok {texts : List Text} (prints : host.Prints stream texts taken result)
    (accepted : ∀ text ∈ texts, ∀ error, ¬host.Refuses stream text error) : result = .ok () := by
  cases result with
  | ok done => rfl
  | error error =>
      obtain ⟨before, refused, after, rfl, -, refuses⟩ := prints
      exact absurd refuses (accepted refused (by simp) error)

/-- One text is taken as a whole, or not at all. -/
theorem Prints.single {text : Text} (prints : host.Prints stream [text] taken result) :
    result = .ok () ∧ taken = text ∨ ∃ error, result = .error error ∧
      host.Refuses stream text error := by
  cases result with
  | ok done => exact .inl ⟨rfl, prints.trans (congrArg Text.ofList (List.append_nil _))⟩
  | error error =>
      obtain ⟨before, refused, after, split, -, refuses⟩ := prints
      have inside : refused ∈ [text] := split ▸ by simp
      exact .inr ⟨error, rfl, List.mem_singleton.mp inside ▸ refuses⟩

end Host

/-- A tree of files with a standard output that takes some texts and refuses others.  Standard error
takes all. -/
def Files.Tree.host (accepts : Text → Except Error Unit) (memory : Nat) : Host Tree where
  toDisk := Tree.disk
  print
    | .output, text => pure (accepts text)
    | .errors, _ => pure (.ok ())
  memory
  printed {stream} _ _ _ _ run := by
    cases stream <;> exact (run_pure_eq.mp run).2 ▸ rfl

section Tree

variable {accepts : Text → Except Error Unit} {memory : Nat} {text : Text} {error : Error}

theorem Files.Tree.refuses_host_iff :
    (Tree.host accepts memory).Refuses .output text error ↔ accepts text = .error error := by
  constructor
  · rintro ⟨s, next, run⟩
    exact (run_pure_eq.mp run).1
  · intro refused
    exact ⟨{}, {}, by rw [← refused]; rfl⟩

theorem Files.Tree.not_refuses_host : ¬(Tree.host accepts memory).Refuses .errors text error := by
  rintro ⟨s, next, run⟩
  cases (run_pure_eq.mp run).1

end Tree

end TaskGraph
