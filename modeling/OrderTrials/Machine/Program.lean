import OrderTrials.Execution.Launch
import OrderTrials.Text.Octets
/-
# Programs

A program is what it asks of the machine it runs on and, for every answer, how it goes on. It ends
with a status. What is computed between two requests is not seen from outside.

Key definitions: `Machine.Refusal`, `Machine.Program`, `Machine.Act`.
Key theorems: `Machine.Act.pure_bind`, `Machine.Act.bind_assoc`.
-/

namespace OrderTrials
namespace Machine

/-- Why the machine refuses a request. -/
inductive Refusal where
  /-- The file system refuses it. -/
  | file (fault : FileFault)
  | badDescriptor
  | denied
  | noChild
  | interrupted
  | noProcess
  | invalid
  | tooLong
  | broken
deriving DecidableEq, Inhabited

/-- A refusal in words. -/
def Refusal.text : Refusal → String
  | file .notFound => "No such file or directory"
  | file .present => "File exists"
  | file .notFolder => "Not a directory"
  | file .isFolder => "Is a directory"
  | file .nameTooLong => "File name too long"
  | file .zeroInName => "Invalid argument"
  | badDescriptor => "Bad file descriptor"
  | denied => "Permission denied"
  | noChild => "No child processes"
  | interrupted => "Interrupted system call"
  | noProcess => "No such process"
  | invalid => "Invalid argument"
  | tooLong => "Argument list too long"
  | broken => "Broken pipe"

/-- How a file is opened. -/
structure Opening where
  reads : Bool := false
  writes : Bool := false
  /-- Whether the file is made if it is not there. -/
  makes : Bool := false
  /-- Whether the file loses what it holds. -/
  empties : Bool := false
  /-- Whether all is written to the end. -/
  appends : Bool := false
  /-- Whether the file must not be there. -/
  onlyNew : Bool := false
deriving DecidableEq, Inhabited

/-- What a process does on a signal. -/
inductive Disposition where
  | standard
  | ignored
  | caught
deriving DecidableEq, Inhabited

/-- The variables that a program is started with. -/
abbrev Environment := List (Octets × Octets)

/-- What a program asks first, and how it goes on after each answer. -/
inductive Program where
  /-- The program ends. -/
  | exit (status : Nat)
  /-- Time passes. -/
  | rest (next : Unit → Program)
  | write (fd : Nat) (data : Octets) (next : Except Refusal Nat → Program)
  /-- Some bytes are read; none are left if the answer is empty. -/
  | read (fd count : Nat) (next : Except Refusal Octets → Program)
  /-- What has been read last from a file is to be read once more: so many bytes. -/
  | putBack (fd count : Nat) (next : Unit → Program)
  | openFile (path : Octets) (how : Opening) (next : Except Refusal Nat → Program)
  | close (fd : Nat) (next : Except Refusal Unit → Program)
  /-- A descriptor is copied to the first free number from `least` on. A copy that is `apart` is
  closed when another program is started. -/
  | copy (fd least : Nat) (apart : Bool) (next : Except Refusal Nat → Program)
  /-- A descriptor is copied to a given number. -/
  | copyTo (fd target : Nat) (next : Except Refusal Unit → Program)
  /-- A pipe is made: the descriptors of its end for reading and its end for writing. -/
  | pipe (next : Nat × Nat → Program)
  /-- A child is started, which runs beside its parent and has the given number there. -/
  | fork (child : Unit → Program) (next : Nat → Program)
  /-- A child is waited for: the given one or any. A program that is not patient goes on if no
  child has ended. -/
  | wait (child : Option Nat) (patient : Bool)
      (next : Except Refusal (Option (Nat × Ending)) → Program)
  /-- Another program takes the place of this one. -/
  | exec (path : Octets) (arguments : List Octets) (environment : Environment)
      (next : Refusal → Program)
  /-- Nothing is done for some nanoseconds. -/
  | sleep (duration : Nat) (next : Except Refusal Unit → Program)
  | signal (process : Int) (number : Nat) (next : Except Refusal Unit → Program)
  /-- The disposition of a signal is changed; the answer is the former one. -/
  | handle (number : Nat) (disposition : Disposition) (next : Disposition → Program)
  /-- The signals that were caught since the last time. -/
  | caught (next : List Nat → Program)
  /-- The numbers of the process and its parent. -/
  | identity (next : Nat × Nat → Program)
  /-- What a path leads to. -/
  | look (path : Octets) (next : Except Refusal (Place × Entry) → Program)
  /-- What a descriptor is of, if it is of a file. -/
  | lookAt (fd : Nat) (next : Except Refusal (Option (Place × Entry)) → Program)
  /-- The names in a folder. -/
  | list (path : Octets) (next : Except Refusal (List Octets) → Program)
  /-- Another folder becomes the working folder. -/
  | enter (path : Octets) (next : Except Refusal Unit → Program)
  /-- The absolute path of the working folder. -/
  | whereabouts (next : Octets → Program)

instance : Inhabited Program := ⟨.exit 0⟩

/-- A part of a program that yields a value. -/
def Act (α : Type) : Type := (α → Program) → Program

namespace Act

instance : Monad Act where
  pure a := fun k => k a
  bind x f := fun k => x fun a => f a k

theorem pure_bind {α β : Type} (a : α) (f : α → Act β) : (pure a >>= f) = f a := rfl

theorem bind_assoc {α β γ : Type} (x : Act α) (f : α → Act β) (g : β → Act γ) :
    (x >>= f) >>= g = x >>= fun a => f a >>= g := rfl

/-- The program that ends with the status which a part yields. -/
def toProgram (x : Act Nat) : Program := x .exit

/-- The end of the program. -/
def exit {α : Type} (status : Nat) : Act α := fun _ => .exit status

instance {α : Type} : Inhabited (Act α) := ⟨exit 0⟩

/-- Writes all of a text. The first argument bounds the number of attempts. -/
def writeWithin (fd : Nat) : Nat → Octets → Act (Except Refusal Unit)
  | 0, _ => pure (.error .invalid)
  | fuel + 1, data => fun k =>
    .write fd data fun answer =>
      match answer with
      | .error refusal => k (.error refusal)
      | .ok n => if data.length ≤ n then k (.ok ()) else writeWithin fd fuel (data.drop n) k

/-- Writes all of a text. -/
def write (fd : Nat) (data : Octets) : Act (Except Refusal Unit) :=
  if data.isEmpty then pure (.ok ()) else writeWithin fd (data.length + 1) data

/-- Writes a line of complaint. -/
def complain (s : String) : Act Unit := do
  let _ ← write 2 (Octets.ofString s ++ ['\n'])

/-- How much is read at once. -/
def blockSize : Nat := 65536

/-- Reads until nothing is left. The first argument bounds the number of blocks. -/
def readWithin (fd : Nat) : Nat → List Octets → Act (Except Refusal Octets)
  | 0, blocks => pure (.ok blocks.reverse.flatten)
  | fuel + 1, blocks => fun k =>
    .read fd blockSize fun answer =>
      match answer with
      | .error .interrupted => readWithin fd fuel blocks k
      | .error refusal => k (.error refusal)
      | .ok [] => k (.ok blocks.reverse.flatten)
      | .ok block => readWithin fd fuel (block :: blocks) k

/-- What bounds repetitions that have no bound of their own. -/
def endless : Nat := 1000000000000

/-- Reads until nothing is left. -/
def readAll (fd : Nat) : Act (Except Refusal Octets) := readWithin fd endless []

end Act
end Machine
end OrderTrials
