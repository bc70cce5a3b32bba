import SealedDrop.Entropy
import SealedDrop.Session.Effect

/-!
# The machine as a value

A machine that is a value: a file tree, a home directory, a supply of randomness, and a plan of faults. It answers every
effect, so that a session can be run, and reasoned about, without a real machine.

## The model

* Accesses that change files consult the plan of faults, one entry each. A planned fault makes the access fail; a write may
  have stored a part of its bytes by then. Removal never fails by plan.
* How a file is delivered to a reader is up to `delivery`; without a plan of its own a machine delivers it in one piece.
* New files get the permission bits that are asked for less those of the mask of the machine.

Every path is text, no access is refused for want of permission, and what is known of an open file can always be told.
-/

namespace SealedDrop

/-- A planned failure of an access. -/
structure Fault where
  /-- The failure. -/
  error : IoError
  /-- How many bytes of a write are stored nevertheless. -/
  stored : Nat := 0
deriving DecidableEq, Repr

/-- The state of a machine. -/
structure Machine where
  /-- The files. -/
  tree : FileTree := {}
  /-- The working directory. -/
  workDir : Route := []
  /-- The home directory of the user. -/
  home : Option String := none
  /-- The permission bits that new files do not get. -/
  umask : Nat := 0o022
  /-- The supply of randomness. -/
  entropy : Entropy
  /-- What happens to the next accesses that change files, as far as it is planned. -/
  faults : List (Option Fault) := []
  /-- How the contents of a file are delivered. -/
  delivery : Bytes → List ReadEvent := ReadEvent.ofBytes

namespace Machine

/-- The permission bits of a new file for which these were asked. There are twelve. -/
def masked (m : Machine) (mode : Nat) : Nat :=
  mode &&& (0o7777 ^^^ (m.umask &&& 0o7777))

/-- The next planned fault, and the machine after it has been consulted. -/
def nextFault (m : Machine) : Option Fault × Machine :=
  match m.faults with
  | [] => (none, m)
  | f :: rest => (f, { m with faults := rest })

/-- What opening a node for reading gives. -/
def source (m : Machine) : Node → Source
  | .directory => ⟨false, 0, [.failure SystemError.isDirectory.toIoError]⟩
  | .file _ data => ⟨true, data.length, m.delivery data⟩
  | .stream isRegular data => ⟨isRegular, 0, m.delivery data⟩
  | .link _ => ⟨false, 0, []⟩

/-- The outcome of a change to the tree. -/
def change {α : Type} (m : Machine) (x : Except SystemError (α × FileTree)) : Except IoError α × Machine :=
  match x with
  | .ok (a, t) => (.ok a, { m with tree := t })
  | .error e => (.error e.toIoError, m)

/-- The answer to an effect, and the machine after it. -/
def answer (m : Machine) : (e : Effect) → e.Answer × Machine
  | .home => (m.home, m)
  | .draw n => (⟨m.entropy.peek n, m.entropy.length_peek n⟩, { m with entropy := m.entropy.skip n })
  | .hasEntry path => ((m.tree.find m.workDir path).isOk, m)
  | .isFile path =>
    (match m.tree.find m.workDir path with
      | .ok (.file _ _) => true
      | .ok (.stream isRegular _) => isRegular
      | _ => false, m)
  | .openRead path =>
    (match m.tree.find m.workDir path with
      | .ok n => .ok (m.source n)
      | .error e => .error e.toIoError, m)
  | .createNew path mode =>
    match m.nextFault with
    | (some f, m) => (.error f.error, m)
    | (none, m) => m.change ((m.tree.create m.workDir path (m.masked mode)).map fun (r, t) => (⟨r⟩, t))
  | .write h b =>
    match m.nextFault with
    | (some f, m) => (.error f.error, { m with tree := m.tree.append h.route (b.take f.stored) })
    | (none, m) => (.ok (), { m with tree := m.tree.append h.route b })
  | .sync _ =>
    match m.nextFault with
    | (some f, m) => (.error f.error, m)
    | (none, m) => (.ok (), m)
  | .rename old new =>
    match m.nextFault with
    | (some f, m) => (.error f.error, m)
    | (none, m) => m.change ((m.tree.rename m.workDir old new).map fun t => ((), t))
  | .remove path =>
    match m.tree.remove m.workDir path with
    | .ok t => ((), { m with tree := t })
    | .error _ => ((), m)

end Machine

namespace Session

/-- Runs a session on a machine and a transport, to its end. -/
def run {α σ : Type} (transport : Transport σ) : Session α → Machine → σ → α × Machine × σ
  | done a, m, s => (a, m, s)
  | perform e next, m, s =>
    let (answer, m) := m.answer e
    run transport (next answer) m s
  | call r token next, m, s =>
    let (response, s) := transport r token s
    run transport (next response) m s

end Session

/-- Runs a session that may fail. -/
def Op.run {α σ : Type} (transport : Transport σ) (op : Op α) (m : Machine) (s : σ) : Except Error α × Machine × σ :=
  Session.run transport (ExceptT.run op) m s

end SealedDrop
