import Mathlib.Data.Set.Function
import Pinaivu.Lib.Hex
import Pinaivu.Lib.Runs

/-!
`LocalStorageClient` of `crates/storage/src/local.rs`: blobs as files named by the digest of their content. Which
file an id names is the business of the file system; a write may stop after any part of the data.
-/

namespace Pinaivu.Storage

abbrev Files (Path : Type) := Path → Option (List UInt8)

inductive WriteOutcome where
  | complete
  | stopped (written : Nat)
  | refused
  deriving DecidableEq, Repr

inductive Failure where
  | error (message : String)
  | io
  deriving DecidableEq, Repr

inductive Call where
  | put (data : List UInt8) (outcome : WriteOutcome)
  | get (blobId : String)
  | delete (blobId : String)
  deriving DecidableEq, Repr

def fileName (hash : Vector UInt8 32) : String := String.ofList (Hex.encode hash.toList)

theorem fileName_injective : Function.Injective fileName := by
  intro first second same
  have digits := congrArg String.toList same
  rw [fileName, fileName, String.toList_ofList, String.toList_ofList] at digits
  exact Vector.toList_inj.mp (Hex.encode_injective digits)

def NamesApart {Path : Type} (locate : String → Option Path) : Prop :=
  ∀ first second path, locate (fileName first) = some path → locate (fileName second) = some path → first = second

section

variable {Path : Type} [DecidableEq Path] (sha256 : List UInt8 → Vector UInt8 32) (locate : String → Option Path)

def put (files : Files Path) (data : List UInt8) (outcome : WriteOutcome) : Files Path × Except Failure String :=
  let id := fileName (sha256 data)
  match locate id with
  | none => (files, .error .io)
  | some path =>
      if (files path).isSome then (files, .ok id)
      else
        match outcome with
        | .complete => (Function.update files path (some data), .ok id)
        | .stopped written => (Function.update files path (some (data.take written)), .error .io)
        | .refused => (files, .error .io)

def get (files : Files Path) (blobId : String) : Except Failure (List UInt8) :=
  match locate blobId with
  | none => .error .io
  | some path =>
      match files path with
      | some data => .ok data
      | none => .error (.error s!"blob not found: {blobId}")

/-- A missing blob is no error. -/
def delete (files : Files Path) (blobId : String) : Files Path × Except Failure Unit :=
  match locate blobId with
  | none => (files, .error .io)
  | some path => (Function.update files path none, .ok ())

def step (files : Files Path) : Call → Files Path
  | .put data outcome => (put sha256 locate files data outcome).1
  | .get _ => files
  | .delete blobId => (delete locate files blobId).1

/-- A blob has its own digest, and what was put is there until its file is deleted. -/
structure Integrity (start : Files Path) (calls : List Call) : Prop where
  digest : ∀ first blobId rest data, calls = first ++ .get blobId :: rest →
    get locate (Runs.run (step sha256 locate) start first) blobId = .ok data → fileName (sha256 data) = blobId
  stored : ∀ first data outcome middle rest blobId, calls = first ++ .put data outcome :: middle ++ rest →
    (put sha256 locate (Runs.run (step sha256 locate) start first) data outcome).2 = .ok blobId →
    (∀ other, .delete other ∈ middle → locate other ≠ locate blobId) →
    get locate (Runs.run (step sha256 locate) start (first ++ .put data outcome :: middle)) blobId = .ok data

/-- The files, and for each the data of the put that last found none there. -/
structure World (Path : Type) where
  files : Files Path
  intended : Path → Option (List UInt8)

def intend (world : World Path) : Call → Path → Option (List UInt8)
  | .put data _ =>
      match locate (fileName (sha256 data)) with
      | none => world.intended
      | some path =>
          if (world.files path).isSome then world.intended else Function.update world.intended path (some data)
  | .get _ | .delete _ => world.intended

def advance (world : World Path) (call : Call) : World Path where
  files := step sha256 locate world.files call
  intended := intend sha256 locate world call

/-- A file that is trusted was written to its end, and one that is read also under the id it is read by. -/
def Intact (world : World Path) : Call → Prop
  | .put data _ => ∀ path stored, locate (fileName (sha256 data)) = some path → world.files path = some stored →
      world.intended path = some stored
  | .get blobId => ∀ path stored, locate blobId = some path → world.files path = some stored →
      world.intended path = some stored ∧ fileName (sha256 stored) = blobId
  | .delete _ => True

structure Traced (known : Set (List UInt8)) (world : World Path) : Prop where
  written : ∀ path stored data, world.files path = some stored → world.intended path = some data →
    stored <+: data ∧ locate (fileName (sha256 data)) = some path ∧ data ∈ known
  named : ∀ hash path stored, locate (fileName hash) = some path → world.files path = some stored →
    ∃ data, world.intended path = some data

end

section

variable {Path : Type} [DecidableEq Path] {sha256 : List UInt8 → Vector UInt8 32} {locate : String → Option Path}

omit [DecidableEq Path] in
theorem get_eq_ok_iff {files : Files Path} {blobId : String} {data : List UInt8} :
    get locate files blobId = .ok data ↔ ∃ path, locate blobId = some path ∧ files path = some data := by
  unfold get
  cases locate blobId with
  | none => simp
  | some path => cases found : files path <;> simp [found]

theorem advance_path (world : World Path) (call : Call) (path : Path) :
    ((advance sha256 locate world call).files path = world.files path ∧
        (advance sha256 locate world call).intended path = world.intended path) ∨
      (∃ data outcome, call = .put data outcome ∧ locate (fileName (sha256 data)) = some path ∧
        world.files path = none ∧ (advance sha256 locate world call).intended path = some data ∧
        ∀ stored, (advance sha256 locate world call).files path = some stored → stored <+: data) ∨
      (∃ blobId, call = .delete blobId ∧ locate blobId = some path ∧
        (advance sha256 locate world call).files path = none) := by
  cases call with
  | get blobId => exact Or.inl ⟨rfl, rfl⟩
  | delete blobId =>
      cases located : locate blobId with
      | none => left; simp [advance, step, delete, intend, located]
      | some place =>
          by_cases same : path = place
          · right; right
            subst same
            exact ⟨blobId, rfl, located, by simp [advance, step, delete, located]⟩
          · left; simp [advance, step, delete, intend, located, same]
  | put data outcome =>
      cases located : locate (fileName (sha256 data)) with
      | none => left; simp [advance, step, put, intend, located]
      | some place =>
          by_cases taken : (world.files place).isSome
          · left; simp [advance, step, put, intend, located, taken]
          · by_cases same : path = place
            · right; left
              subst same
              have free : world.files path = none := by simpa using taken
              refine ⟨data, outcome, rfl, located, free, by simp [advance, intend, located, taken], ?_⟩
              intro stored written
              cases outcome with
              | complete =>
                  have whole : data = stored := by simpa [advance, step, put, located, taken] using written
                  rw [whole]
              | stopped count =>
                  have part : data.take count = stored := by simpa [advance, step, put, located, taken] using written
                  rw [← part]
                  exact List.take_prefix count data
              | refused => simp [advance, step, put, located, free] at written
            · left
              cases outcome <;> simp [advance, step, put, intend, located, taken, same]

theorem Traced.advance {known : Set (List UInt8)} {world : World Path} {call : Call}
    (traced : Traced sha256 locate known world) (inside : ∀ data outcome, call = .put data outcome → data ∈ known) :
    Traced sha256 locate known (advance sha256 locate world call) := by
  constructor
  · intro path stored data file intended
    rcases advance_path world call path with ⟨sameFile, sameData⟩ | ⟨given, outcome, called, located, -, new, part⟩ |
        ⟨blobId, -, -, gone⟩
    · rw [sameFile] at file
      rw [sameData] at intended
      exact traced.written path stored data file intended
    · rw [new] at intended
      cases intended
      exact ⟨part stored file, located, inside data outcome called⟩
    · rw [gone] at file
      contradiction
  · intro hash path stored located file
    rcases advance_path world call path with ⟨sameFile, sameData⟩ | ⟨given, -, -, -, -, new, -⟩ | ⟨blobId, -, -, gone⟩
    · rw [sameFile] at file
      rw [sameData]
      exact traced.named hash path stored located file
    · exact ⟨given, new⟩
    · rw [gone] at file
      contradiction

theorem traced_run {known : Set (List UInt8)} {world : World Path} {calls : List Call}
    (traced : Traced sha256 locate known world)
    (inside : ∀ data outcome, .put data outcome ∈ calls → data ∈ known) :
    Traced sha256 locate known (Runs.run (Storage.advance sha256 locate) world calls) := by
  induction calls generalizing world with
  | nil => exact traced
  | cons call rest ih =>
      rw [Runs.run_cons]
      apply ih (traced.advance ?_)
      · intro data outcome member
        exact inside data outcome (List.mem_cons_of_mem _ member)
      · rintro data outcome rfl
        exact inside data outcome (List.mem_cons_self ..)

theorem files_run (world : World Path) (calls : List Call) :
    (Runs.run (Storage.advance sha256 locate) world calls).files =
      Runs.run (step sha256 locate) world.files calls := by
  induction calls generalizing world with
  | nil => rfl
  | cons call rest ih =>
      rw [Runs.run_cons, ih]
      rfl

theorem kept_run {files : Files Path} {path : Path} {data : List UInt8} {calls : List Call}
    (file : files path = some data) (kept : ∀ blobId, .delete blobId ∈ calls → locate blobId ≠ some path) :
    Runs.run (step sha256 locate) files calls path = some data := by
  induction calls generalizing files with
  | nil => exact file
  | cons call rest ih =>
      rw [Runs.run_cons]
      apply ih
      · rcases @advance_path _ _ sha256 locate ⟨files, fun _ => none⟩ call path with
          ⟨same, -⟩ | ⟨given, outcome, -, -, free, -⟩ | ⟨blobId, rfl, located, -⟩
        · exact same.trans file
        · exact absurd (free.symm.trans file) (by simp)
        · exact absurd located (kept blobId (List.mem_cons_self ..))
      · intro blobId member
        exact kept blobId (List.mem_cons_of_mem _ member)

/-- A put that succeeds has written its data, or trusts the file that is there. -/
theorem put_ok {files : Files Path} {data : List UInt8} {outcome : WriteOutcome} {blobId : String}
    (succeeded : (put sha256 locate files data outcome).2 = .ok blobId) :
    blobId = fileName (sha256 data) ∧ ∃ path, locate blobId = some path ∧
      (files path = none ∧ step sha256 locate files (.put data outcome) path = some data ∨
        ∃ stored, files path = some stored ∧ step sha256 locate files (.put data outcome) path = some stored) := by
  unfold put at succeeded
  cases located : locate (fileName (sha256 data)) with
  | none => simp [located] at succeeded
  | some path =>
      cases found : files path with
      | some stored =>
          have named : fileName (sha256 data) = blobId := by simpa [located, found] using succeeded
          subst named
          exact ⟨rfl, path, located, Or.inr ⟨stored, found, by simp [step, put, located, found]⟩⟩
      | none =>
          cases outcome with
          | complete =>
              have named : fileName (sha256 data) = blobId := by simpa [located, found] using succeeded
              subst named
              exact ⟨rfl, path, located, Or.inl ⟨found, by simp [step, put, located, found]⟩⟩
          | stopped written => simp [located, found] at succeeded
          | refused => simp [located, found] at succeeded

theorem put_present {files : Files Path} {data stored : List UInt8} {path : Path}
    (located : locate (fileName (sha256 data)) = some path) (found : files path = some stored)
    (outcome : WriteOutcome) :
    put sha256 locate files data outcome = (files, .ok (fileName (sha256 data))) := by
  simp [put, located, found]

section

variable {known : Set (List UInt8)} {world : World Path}

omit [DecidableEq Path] in
theorem Traced.of_name (traced : Traced sha256 locate known world)
    (apart : NamesApart locate) {hash : Vector UInt8 32} {path : Path} {stored : List UInt8}
    (located : locate (fileName hash) = some path) (found : world.files path = some stored) :
    ∃ data ∈ known, world.intended path = some data ∧ sha256 data = hash ∧ stored <+: data := by
  obtain ⟨data, intended⟩ := traced.named hash path stored located found
  obtain ⟨part, place, member⟩ := traced.written path stored data found intended
  exact ⟨data, member, intended, apart _ _ path place located, part⟩

omit [DecidableEq Path] in
theorem Traced.intact_put_iff (traced : Traced sha256 locate known world)
    (apart : NamesApart locate) (collisionFree : Set.InjOn sha256 known) {data : List UInt8} (member : data ∈ known)
    (outcome : WriteOutcome) :
    Intact sha256 locate world (.put data outcome) ↔
      ∀ path stored, locate (fileName (sha256 data)) = some path → world.files path = some stored → stored = data := by
  constructor
  · intro intact path stored located found
    have whole := intact path stored located found
    obtain ⟨-, place, inside⟩ := traced.written path stored stored found whole
    exact collisionFree inside member (apart _ _ path place located)
  · intro trusted path stored located found
    obtain ⟨source, inside, intended, hash, -⟩ := traced.of_name apart located found
    rw [intended, trusted path stored located found, collisionFree inside member hash]

omit [DecidableEq Path] in
theorem Traced.intact_get_iff (traced : Traced sha256 locate known world)
    (apart : NamesApart locate) (collisionFree : Set.InjOn sha256 known)
    (closed : ∀ data ∈ known, ∀ part, part <+: data → part ∈ known) (blobId : String) :
    Intact sha256 locate world (.get blobId) ↔
      ∀ data, get locate world.files blobId = .ok data → fileName (sha256 data) = blobId := by
  constructor
  · intro intact data read
    obtain ⟨path, located, found⟩ := get_eq_ok_iff.mp read
    exact (intact path data located found).2
  · intro digest path stored located found
    have named := digest stored (get_eq_ok_iff.mpr ⟨path, located, found⟩)
    refine ⟨?_, named⟩
    rw [← named] at located
    obtain ⟨source, inside, intended, hash, part⟩ := traced.of_name apart located found
    rw [intended, collisionFree inside (closed source inside stored part) hash]

end

def Written (calls : List Call) : Set (List UInt8) :=
  {bytes | ∃ data outcome, .put data outcome ∈ calls ∧ bytes <+: data}

theorem written_closed (calls : List Call) {data part : List UInt8} (written : data ∈ Written calls)
    (shorter : part <+: data) : part ∈ Written calls := by
  obtain ⟨source, outcome, member, inside⟩ := written
  exact ⟨source, outcome, member, shorter.trans inside⟩

def World.start (files : Files Path) : World Path := ⟨files, fun _ => none⟩

section

variable {start : Files Path} {first rest : List Call}

theorem traced_before (fresh : ∀ hash path, locate (fileName hash) = some path → start path = none) :
    Traced sha256 locate (Written (first ++ rest))
      (Runs.run (Storage.advance sha256 locate) (World.start start) first) := by
  apply traced_run
  · constructor
    · intro path stored data _ intended
      exact absurd intended (by simp [World.start])
    · intro hash path stored located file
      have free := fresh hash path located
      exact absurd (free.symm.trans file) (by simp)
  · intro data outcome member
    exact ⟨data, outcome, List.mem_append_left _ member, List.prefix_refl data⟩

theorem intact_put_before_iff (apart : NamesApart locate)
    (fresh : ∀ hash path, locate (fileName hash) = some path → start path = none) {data : List UInt8}
    {outcome : WriteOutcome} (collisionFree : Set.InjOn sha256 (Written (first ++ .put data outcome :: rest))) :
    Intact sha256 locate (Runs.run (Storage.advance sha256 locate) (World.start start) first) (.put data outcome) ↔
      ∀ path stored, locate (fileName (sha256 data)) = some path →
        Runs.run (step sha256 locate) start first path = some stored → stored = data := by
  have member : data ∈ Written (first ++ .put data outcome :: rest) :=
    ⟨data, outcome, by simp, List.prefix_refl data⟩
  rw [(traced_before fresh).intact_put_iff apart collisionFree member, files_run]
  rfl

theorem intact_get_before_iff (apart : NamesApart locate)
    (fresh : ∀ hash path, locate (fileName hash) = some path → start path = none) {blobId : String}
    (collisionFree : Set.InjOn sha256 (Written (first ++ .get blobId :: rest))) :
    Intact sha256 locate (Runs.run (Storage.advance sha256 locate) (World.start start) first) (.get blobId) ↔
      ∀ data, get locate (Runs.run (step sha256 locate) start first) blobId = .ok data →
        fileName (sha256 data) = blobId := by
  rw [(traced_before fresh).intact_get_iff apart collisionFree fun _ written _ => written_closed _ written, files_run]
  rfl

end

/-- Once a put has succeeded over a file with its data or none, the data stays until the file is deleted. -/
theorem stored_after {files : Files Path} {data : List UInt8} {outcome : WriteOutcome} {blobId : String}
    (succeeded : (put sha256 locate files data outcome).2 = .ok blobId)
    (trusted : ∀ path stored, locate (fileName (sha256 data)) = some path → files path = some stored → stored = data)
    {middle : List Call} (kept : ∀ other, .delete other ∈ middle → locate other ≠ locate blobId) :
    get locate (Runs.run (step sha256 locate) files (.put data outcome :: middle)) blobId = .ok data := by
  obtain ⟨rfl, path, located, after⟩ := put_ok succeeded
  apply get_eq_ok_iff.mpr
  refine ⟨path, located, ?_⟩
  rw [Runs.run_cons]
  apply kept_run
  · rcases after with ⟨-, written⟩ | ⟨stored, found, unchanged⟩
    · exact written
    · rw [unchanged, trusted path stored located found]
  · intro other deleted same
    exact kept other deleted (same.trans located.symm)

/-- Blobs stay whole exactly in the runs that never rely on a file that was not written to its end, or
that is read under another name than its own. -/
theorem blob_integrity_iff (sha256 : List UInt8 → Vector UInt8 32) (locate : String → Option Path)
    (apart : NamesApart locate) (start : Files Path)
    (fresh : ∀ hash path, locate (fileName hash) = some path → start path = none) (calls : List Call)
    (collisionFree : Set.InjOn sha256 (Written calls)) :
    Integrity sha256 locate start calls ↔
      Runs.Always (Storage.advance sha256 locate) (Intact sha256 locate) (World.start start) calls := by
  rw [Runs.always_iff_split]
  constructor
  · rintro integrity first call rest rfl
    cases call with
    | delete blobId => trivial
    | get blobId =>
        rw [intact_get_before_iff apart fresh collisionFree]
        intro data read
        exact integrity.digest first blobId rest data rfl read
    | put data outcome =>
        rw [intact_put_before_iff apart fresh collisionFree]
        intro path stored located found
        have trusted := put_present located found outcome
        have kept := integrity.stored first data outcome [] rest (fileName (sha256 data)) (by simp)
          (by rw [trusted]) (by simp)
        rw [Runs.run_concat, step, trusted] at kept
        obtain ⟨place, same, read⟩ := get_eq_ok_iff.mp kept
        rw [located] at same
        cases same
        exact Option.some.inj (found.symm.trans read)
  · intro intact
    constructor
    · rintro first blobId rest data rfl read
      exact (intact_get_before_iff apart fresh collisionFree).mp (intact first _ rest rfl) data read
    · rintro first data outcome middle rest blobId rfl succeeded kept
      rw [List.append_assoc, List.cons_append] at intact collisionFree
      rw [Runs.run_append]
      apply stored_after succeeded _ kept
      exact (intact_put_before_iff apart fresh collisionFree).mp (intact first _ _ rfl)

end

def emptyDigest : Vector UInt8 32 :=
  #v[227, 176, 196, 66, 152, 252, 28, 20, 154, 251, 244, 200, 153, 111, 185, 36, 39, 174, 65, 228, 100, 155, 147, 76,
     164, 149, 153, 27, 120, 82, 184, 85]

def partDigest : Vector UInt8 32 :=
  #v[75, 245, 18, 47, 52, 69, 84, 197, 59, 222, 46, 187, 140, 210, 183, 227, 209, 96, 10, 214, 49, 195, 133, 165, 215,
     204, 226, 60, 119, 133, 69, 154]

def blobDigest : Vector UInt8 32 :=
  #v[161, 40, 113, 254, 226, 16, 251, 134, 25, 41, 30, 174, 161, 148, 88, 28, 189, 37, 49, 228, 178, 55, 89, 210, 37,
     246, 128, 105, 35, 246, 50, 34]

/-- The digests of two bytes and of what comes before their end. -/
def sampleSha256 (input : List UInt8) : Vector UInt8 32 :=
  if input = [1, 2] then blobDigest else if input = [1] then partDigest else emptyDigest

def noFiles : Files String := fun _ => none

theorem namesApart_some : NamesApart (some : String → Option String) := by
  intro first second path firstFound secondFound
  exact fileName_injective (Option.some.inj (firstFound.trans secondFound.symm))

def sampleSource (digest : Vector UInt8 32) : List UInt8 :=
  if digest = blobDigest then [1, 2] else if digest = partDigest then [1] else []

def soundCalls : List Call :=
  [.put [1, 2] .refused, .put [1, 2] .complete, .put [1, 2] (.stopped 1), .get (fileName blobDigest)]

theorem sampleSource_written {bytes : List UInt8} (written : bytes ∈ Written soundCalls) :
    sampleSource (sampleSha256 bytes) = bytes := by
  obtain ⟨data, outcome, member, part⟩ := written
  have given : data = [1, 2] := by
    simp only [soundCalls, List.mem_cons, Call.put.injEq, List.not_mem_nil, or_false, reduceCtorEq] at member
    rcases member with ⟨same, -⟩ | ⟨same, -⟩ | ⟨same, -⟩ <;> exact same
  rw [given] at part
  have parts : bytes = [] ∨ bytes = [1] ∨ bytes = [1, 2] := by
    simp only [List.prefix_cons_iff, List.prefix_nil] at part
    rcases part with rfl | ⟨_, rfl, rfl | ⟨_, rfl, rfl⟩⟩ <;> simp
  rcases parts with rfl | rfl | rfl <;> decide

theorem blob_integrity_sample : Integrity sampleSha256 some noFiles soundCalls := by
  have collisionFree : Set.InjOn sampleSha256 (Written soundCalls) := by
    intro first firstWritten second secondWritten same
    rw [← sampleSource_written firstWritten, ← sampleSource_written secondWritten, same]
  apply (blob_integrity_iff sampleSha256 some namesApart_some noFiles (fun _ _ _ => rfl) soundCalls collisionFree).mpr
  have hash : sampleSha256 [1, 2] = blobDigest := rfl
  refine ⟨?_, ?_, ?_, ?_, trivial⟩
  · rintro path stored ⟨⟩ found
    simp [World.start, noFiles] at found
  · rintro path stored ⟨⟩ found
    simp [World.start, noFiles, advance, step, put, hash] at found
  · rintro path stored ⟨⟩ found
    simpa [World.start, noFiles, advance, intend, step, put, hash] using found
  · rintro path stored ⟨⟩ found
    have whole : [1, 2] = stored := by
      simpa [World.start, noFiles, advance, step, put, hash] using found
    subst whole
    exact ⟨by simp [World.start, noFiles, advance, intend, step, put, hash], by rw [hash]⟩

/-- A put of two bytes that stops after one makes the next put succeed without writing. -/
theorem interrupted_put_trusted :
    ¬Integrity sampleSha256 some noFiles [.put [1, 2] (.stopped 1), .put [1, 2] .complete] := by
  intro integrity
  have hash : sampleSha256 [1, 2] = blobDigest := rfl
  have kept := integrity.stored [.put [1, 2] (.stopped 1)] [1, 2] .complete [] [] (fileName blobDigest) rfl
    (by simp [noFiles, step, put, hash]) (by simp)
  simp [noFiles, get, step, put, hash] at kept

end Pinaivu.Storage
