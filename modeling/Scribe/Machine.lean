import Scribe.Text.Encode
import Scribe.Work

/-!
# The machine that a program runs on

Lines go to a console and pauses are kept by a clock. Both belong to the machine and not to the
program, and both may refuse what they cannot do. A program relies on little: lines of characters
are taken, and so are pauses of some seconds.
-/

namespace Scribe

/-! ## Consoles -/

/-- A console, which tells why it does not take a line. -/
structure Console where
  refusal? : Text → Option String
  refusal?_ofString : ∀ line : String, refusal? line = none

namespace Console

/-- A console that keeps lines as they are. -/
def keeping : Console := ⟨fun _ => none, fun _ => rfl⟩

/-- A console that writes lines as bytes. -/
def writing : Console where
  refusal? line :=
    match Utf8.write line with
    | .ok _ => none
    | .error e => some e.message
  refusal?_ofString line := by rw [Utf8.write_ofString]

/-- Prints a line, unless the console refuses it. -/
def print {σ : Type} (console : Console) (line : Text) : Work σ (Except String Unit) :=
  match console.refusal? line with
  | some message => pure (.error message)
  | none => do
    Work.tell (.printed line)
    return .ok ()

@[simp]
theorem run_print {σ : Type} (console : Console) (line : Text) (s : σ) :
    (console.print line).run s =
      match console.refusal? line with
      | some message => ⟨.error message, s, []⟩
      | none => ⟨.ok (), s, [.printed line]⟩ := by
  rw [print]
  cases console.refusal? line <;> rfl

end Console

/-! ## Clocks -/

/-- The kinds of refusals of a clock. -/
inductive PauseFault where
  | value
  | overflow
  | system
  | type
  deriving DecidableEq, Repr

/-- Why a clock does not wait. -/
structure PauseError where
  fault : PauseFault
  message : String
  deriving DecidableEq, Repr

namespace PauseError

def negative : PauseError := ⟨.value, "sleep length must be non-negative"⟩

def notANumber : PauseError := ⟨.value, "Invalid value NaN (not a number)"⟩

def tooLong : PauseError := ⟨.overflow, "timestamp too large to convert to C _PyTime_t"⟩

def outOfRange : PauseError := ⟨.overflow, "timestamp out of range for platform time_t"⟩

def pastEnd : PauseError := ⟨.system, "[Errno 22] Invalid argument"⟩

def notWhole (kind : String) : PauseError :=
  ⟨.type, "'" ++ kind ++ "' object cannot be interpreted as an integer"⟩

def notOrdered (kind : String) : PauseError :=
  ⟨.type, "'<' not supported between instances of '" ++ kind ++ "' and 'int'"⟩

end PauseError

/-- A clock, which tells why it does not wait. -/
structure Clock where
  refusal? : Seconds → Option PauseError
  /-- The refusal of a value of a kind that is no number. -/
  noNumber : String → PauseError
  refusal?_whole : ∀ n : Nat, n ≤ 60 → refusal? (.whole n) = none

namespace Clock

/-- A clock that only notes how long it should wait, as long as that is not less than nothing. -/
def noting : Clock where
  refusal? time := if time.isNegative then some .negative else none
  noNumber := .notOrdered
  refusal?_whole n _ := if_neg (by simp [Seconds.isNegative])

/-- Where the time of a ticking clock ends, in nanoseconds. -/
def limit : Nat := Nat.pow 2 63

/-- Nanoseconds of a second. -/
def second : Nat := 1000000000

/-- Nanoseconds of a length of time, a part of one counting as a whole. -/
def nanoseconds : Seconds → Except PauseError Int
  | .whole n => if second * n.natAbs < limit then .ok (second * n) else .error .tooLong
  | .binary x =>
    match x.times second with
    | .notANumber => .error .notANumber
    | .infinite _ => .error .outOfRange
    | .finite negative m e =>
      let size :=
        if 0 ≤ e then m * Nat.pow 2 e.toNat
        else (m + Nat.pow 2 (-e).toNat - 1) / Nat.pow 2 (-e).toNat
      if size < limit then .ok (if negative then -size else size) else .error .outOfRange

/-- Why a clock that has ticked for `uptime` nanoseconds does not wait. -/
def tickingRefusal? (uptime : Nat) (time : Seconds) : Option PauseError :=
  match nanoseconds time with
  | .error e => some e
  | .ok n =>
    if n < 0 then some .negative
    else if n + uptime < limit then none
    else some .pastEnd

/-- Whole seconds for which there is time are waited for. -/
theorem tickingRefusal?_whole {uptime n : Nat} (h : uptime + second * n < limit) :
    tickingRefusal? uptime (.whole n) = none := by
  have hsize : second * ((n : Int)).natAbs < limit := by
    rw [Int.natAbs_natCast]
    exact Nat.lt_of_le_of_lt (Nat.le_add_left _ _) h
  have hsign : ¬ (second : Int) * n < 0 := by
    rw [← Int.natCast_mul]
    exact Int.not_lt.mpr (Int.natCast_nonneg _)
  have hend : (second : Int) * n + uptime < limit := by
    rw [← Int.natCast_mul, ← Int.natCast_add, Nat.add_comm]
    exact Int.ofNat_lt.mpr h
  rw [tickingRefusal?, nanoseconds, if_pos hsize]
  dsimp only
  rw [if_neg hsign, if_pos hend]

/-- A clock that has ticked for `uptime` nanoseconds and goes on for at least a minute. -/
def ticking (uptime : Nat) (h : uptime + second * 60 < limit) : Clock where
  refusal? := tickingRefusal? uptime
  noNumber := .notWhole
  refusal?_whole _ hn :=
    tickingRefusal?_whole
      (Nat.lt_of_le_of_lt (Nat.add_le_add_left (Nat.mul_le_mul_left second hn) uptime) h)

end Clock

/-- The machine that a program runs on. -/
structure Machine where
  console : Console
  clock : Clock

namespace Machine

/-- A machine that keeps what is printed and notes the pauses without making them. -/
def keeping : Machine := ⟨.keeping, .noting⟩

/-- A machine that writes what is printed and makes the pauses. -/
def ticking (uptime : Nat) (h : uptime + Clock.second * 60 < Clock.limit) : Machine :=
  ⟨.writing, .ticking uptime h⟩

end Machine

end Scribe
