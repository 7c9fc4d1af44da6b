import KamuneBridge.Wire

/-!
# Finding the daemon binary

`get_binary_candidates` lists paths in priority order: the resource directory (plain and
architecture names, then both under `binaries`), the directory of the running executable,
the working directory, and three `dist` directories. `find_daemon_binary` returns the first
candidate for which `Path::exists` holds, which is true of a directory as well as a file.
-/

namespace KamuneBridge

inductive Os
  | windows | macos | linux | other
  deriving DecidableEq, Repr

inductive Arch
  | aarch64 | x86_64 | other
  deriving DecidableEq, Repr

/-- The `target_os` and `target_arch` the bridge was built for. -/
structure Platform where
  os : Os
  arch : Arch
  deriving DecidableEq, Repr

def binaryName (p : Platform) : String :=
  if p.os = .windows then "daemon.exe" else "daemon"

/-- `arch_binary`: `binary_name` for a target without its own build. -/
def archBinary (p : Platform) : String :=
  match p.os, p.arch with
  | .macos, .aarch64 => "daemon-darwin-arm64"
  | .macos, .x86_64 => "daemon-darwin-amd64"
  | .linux, .x86_64 => "daemon-linux-amd64"
  | .linux, .aarch64 => "daemon-linux-arm64"
  | .windows, .x86_64 => "daemon-windows-amd64.exe"
  | _, _ => binaryName p

/-- A `PathBuf`: rooted or relative, and its components. -/
structure Path where
  absolute : Bool
  comps : List String
  deriving DecidableEq, Repr

/-- `PathBuf::from` on a relative path. -/
def Path.rel (comps : List String) : Path := ⟨false, comps⟩

/-- `Path::join` with a relative component. -/
def Path.join (p : Path) (s : String) : Path := { p with comps := p.comps ++ [s] }

/-- `Path::parent`: `None` for a root or an empty path. -/
def Path.parent (p : Path) : Option Path :=
  if p.comps = [] then none else some { p with comps := p.comps.dropLast }

/-- `currentExe` is `std::env::current_exe()`, `none` when it fails. -/
def getBinaryCandidates (plat : Platform) (currentExe resourceDir : Option Path) : List Path :=
  let bin := binaryName plat
  let arch := archBinary plat
  (match resourceDir with
    | some res =>
      [res.join bin, res.join arch, (res.join "binaries").join bin, (res.join "binaries").join arch]
    | none => []) ++
  (match currentExe.bind Path.parent with
    | some dir => [dir.join bin, dir.join arch]
    | none => []) ++
  [Path.rel [bin], Path.rel [arch], (Path.rel ["..", "..", "dist"]).join arch,
    (Path.rel ["..", "dist"]).join arch, (Path.rel ["dist"]).join arch]

inductive FileKind
  | file | dir | other
  deriving DecidableEq, Repr

/-- What `metadata` finds at a path after following links; `none` when it fails. -/
structure FileSystem where
  kind : Path → Option FileKind

/-- `Path::exists`. -/
def FileSystem.pathExists (fs : FileSystem) (p : Path) : Bool := (fs.kind p).isSome

def findDaemonBinary (fs : FileSystem) (plat : Platform) (currentExe resourceDir : Option Path) :
    Except DaemonError Path :=
  match (getBinaryCandidates plat currentExe resourceDir).find? fs.pathExists with
  | some p => .ok p
  | none => .error (.binaryNotFound "daemon binary not found in any expected location")

/-- `find_daemon_binary` returns the first candidate that exists, of whatever kind, and
`BinaryNotFound` when none does. -/
theorem findDaemonBinary_first_existing (fs : FileSystem) (plat : Platform)
    (currentExe resourceDir : Option Path) :
    (∀ p, findDaemonBinary fs plat currentExe resourceDir = .ok p ↔
      (fs.kind p).isSome ∧ ∃ pre post, getBinaryCandidates plat currentExe resourceDir =
        pre ++ p :: post ∧ ∀ q ∈ pre, fs.kind q = none) ∧
    ((∀ q ∈ getBinaryCandidates plat currentExe resourceDir, fs.kind q = none) →
      findDaemonBinary fs plat currentExe resourceDir =
        .error (.binaryNotFound "daemon binary not found in any expected location")) := by
  have key : ∀ p, (getBinaryCandidates plat currentExe resourceDir).find? fs.pathExists = some p ↔
      (fs.kind p).isSome ∧ ∃ pre post, getBinaryCandidates plat currentExe resourceDir =
        pre ++ p :: post ∧ ∀ q ∈ pre, fs.kind q = none := by
    intro p
    simp [List.find?_eq_some, FileSystem.pathExists]
  constructor
  · intro p
    rw [← key]
    unfold findDaemonBinary
    split <;> rename_i h <;> simp [h]
  · intro h
    have : (getBinaryCandidates plat currentExe resourceDir).find? fs.pathExists = none := by
      simpa [FileSystem.pathExists] using h
    simp [findDaemonBinary, this]

/-- A working directory holding a directory named `daemon` and nothing else. -/
def daemonDirFs : FileSystem := ⟨fun p => if p = Path.rel ["daemon"] then some .dir else none⟩

/-- On that filesystem no candidate is a regular file, yet the directory is returned. -/
theorem findDaemonBinary_returns_directory :
    findDaemonBinary daemonDirFs ⟨.linux, .x86_64⟩ none none = .ok (Path.rel ["daemon"]) ∧
      daemonDirFs.kind (Path.rel ["daemon"]) = some .dir ∧
      ∀ q ∈ getBinaryCandidates ⟨.linux, .x86_64⟩ none none, daemonDirFs.kind q ≠ some .file :=
  ⟨rfl, rfl, by decide⟩

end KamuneBridge
