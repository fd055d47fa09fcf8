import Linkage.Pattern.Basic

set_option autoImplicit false

/-! # Searching for patterns

A pattern becomes a list of instructions, numbered from zero. All ways to match are followed
at once, one character after the other: a thread is the number of the instruction with which
a way goes on, and the threads stand in the order of preference. At one place no instruction
is worth a second look, since a preferred thread got there first.

At each place a new thread begins the pattern anew, behind all others, until a match is found.
Where a thread is done there is a match, and the threads behind it are given up. So the match
that remains in the end is the preferred one of those that start first.
-/

namespace Linkage.Pattern

/-! ## Instructions -/

/-- A step of matching, with the numbers of the instructions to go on with. -/
inductive Instruction where
  | take (s : Charset) (next : Nat)
  | check (a : Anchor) (next : Nat)
  | jump (next : Nat)
  | fork (first second : Nat)
  | done

/-- The number of instructions of a pattern. -/
def size : Pattern → Nat
  | empty | char _ | anchor _ => 1
  | sequence p q => p.size + q.size
  | choice p q => p.size + q.size + 1
  | optional _ p | repeated _ p | loop _ p => p.size + 1

/-- A fork that prefers going on over leaving, if greedy. -/
def preferring (greedy : Bool) (inside leaving : Nat) : Instruction :=
  if greedy then .fork inside leaving else .fork leaving inside

/-- The instructions of a pattern, numbered from `start`, which go on with `next` after it. -/
def instructions : Pattern → Nat → Nat → List Instruction
  | empty, _, next => [.jump next]
  | char s, _, next => [.take s next]
  | anchor a, _, next => [.check a next]
  | sequence p q, start, next =>
      let middle := start + p.size
      p.instructions start middle ++ q.instructions middle next
  | choice p q, start, next =>
      let second := start + 1 + p.size
      .fork (start + 1) second :: p.instructions (start + 1) next ++ q.instructions second next
  | optional greedy p, start, next =>
      preferring greedy (start + 1) next :: p.instructions (start + 1) next
  | repeated greedy p, start, next =>
      let last := start + p.size
      p.instructions start last ++ [preferring greedy start next]
  | loop greedy p, start, next =>
      preferring greedy (start + 1) next :: p.instructions (start + 1) start

/-- The instructions of a whole pattern. -/
def program (p : Pattern) : Array Instruction :=
  (p.instructions 0 p.size ++ [Instruction.done]).toArray

/-! ## Threads -/

/-- The threads at a place: the instructions looked at, and the threads that wait for the next
character or are done, both with the last one first. -/
structure Threads where
  seen : List Nat
  waiting : List Nat

/-- Follows a thread as far as it gets without a character. Each instruction is looked at once,
so their number bounds the way. -/
def advance (code : Array Instruction) (x : Place) : Nat → Threads → Nat → Threads
  | 0, t, _ => t
  | fuel + 1, t, i =>
      if t.seen.contains i then t
      else
        let t : Threads := { t with seen := i :: t.seen }
        match code[i]? with
        | some (.jump next) => advance code x fuel t next
        | some (.check a next) => if x.satisfies a then advance code x fuel t next else t
        | some (.fork first second) =>
            advance code x fuel (advance code x fuel t first) second
        | _ => { t with waiting := i :: t.waiting }

/-- The threads that wait or are done after some threads were followed, in order. -/
def settle (code : Array Instruction) (x : Place) (threads : List Nat) : List Nat :=
  (threads.foldl (advance code x (code.size + 1)) ⟨[], []⟩).waiting.reverse

/-- Whether a thread is done. -/
def isDone (code : Array Instruction) (i : Nat) : Bool :=
  match code[i]? with
  | some .done => true
  | _ => false

/-- Where a thread goes on after a character. -/
def accept (code : Array Instruction) (c : Char) (i : Nat) : Option Nat :=
  match code[i]? with
  | some (.take s next) => if s.mem c then some next else none
  | _ => none

/-! ## Matching -/

/-- Whether the match ends with the text, given the threads and whether none is found yet. -/
def endsWithText (code : Array Instruction) :
    Option Char → List Char → List Nat → Bool → Bool
  | before, text, threads, searching =>
      let threads := if searching then threads ++ [0] else threads
      let threads := settle code ⟨before, text.head?⟩ threads
      let live := threads.takeWhile fun i => !isDone code i
      let found : Bool := live.length < threads.length
      match text with
      | [] => found
      | c :: rest =>
          endsWithText code (some c) rest (live.filterMap (accept code c)) (searching && !found)

/-- Whether a text has a match and it goes up to the end of the text. -/
def matchesEnd (p : Pattern) (text : List Char) : Bool :=
  endsWithText p.program none text [] true

end Linkage.Pattern
