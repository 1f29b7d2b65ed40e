import ScriptScan.File.Load
import ScriptScan.File.Tree
import ScriptScan.Proofs.Lines

/-! Loading of sources. What a load answers is told by the bytes, by the fault behind them
and by the preferences; the order in which the loader looks decides which of several
faults is told. From a file or from a stream, the same bytes are answered alike. -/
namespace ScriptScan

namespace Stream
variable {s : Stream} {limit : Nat}

theorem read_of_le (enough : limit ≤ s.data.size) :
    s.read limit =
      (.ok (s.data.extract 0 limit), { s with data := s.data.extract limit s.data.size }) := by
  rw [read, if_pos enough]

theorem read_of_lt (short : s.data.size < limit) :
    s.read limit = ((s.fault.map Except.error).getD (.ok s.data), { data := .empty }) := by
  rw [read, if_neg (Nat.not_le.mpr short)]
  cases s.fault <;> rfl

/-- Of the bytes, at most `limit` are taken from the front. -/
theorem exists_taken (s : Stream) (limit : Nat) :
    ∃ taken, s.data = taken ++ (s.read limit).2.data ∧ taken.size ≤ limit := by
  by_cases enough : limit ≤ s.data.size
  · refine ⟨s.data.extract 0 limit, ?_, ?_⟩
    · rw [read_of_le enough, ByteArray.extract_append_extract, Nat.zero_min,
        Nat.max_eq_right enough, ByteArray.extract_zero_size]
    · rw [ByteArray.size_extract]
      omega
  · refine ⟨s.data, ?_, by omega⟩
    rw [read_of_lt (Nat.lt_of_not_le enough), ByteArray.append_empty]

end Stream

namespace Loader

/-- What loading answers for bytes that are not too many: `path` is the source's name in
errors, and `place` in what is loaded. -/
inductive Settles (p : Loader) (path place : String) (modified : Option Timestamp)
    (bytes : ByteArray) : Except FileError Loaded → Prop
  | malformed : ¬ bytes.IsValidUTF8 →
      Settles p path place modified bytes (.error (.invalidEncoding path))
  | empty : bytes = .empty → p.rejectEmpty = true →
      Settles p path place modified bytes (.error (.empty path))
  | loaded {source : String} : source.toUTF8 = bytes →
      ¬ (bytes = .empty ∧ p.rejectEmpty = true) →
      Settles p path place modified bytes (.ok {
        source, path := place, size := bytes.size, modified
        lines := source.toList.count '\n' +
          if source = "" ∨ source.toList.getLast? = some '\n' then 0 else 1 })

/-- What loading answers for a stream. Its size is looked at first, then its fault, and its
content last. -/
inductive Answers (p : Loader) (name : String) (s : Stream) : Except FileError Loaded → Prop
  | tooLarge : Limits.active.maxFileSize < s.data.size →
      Answers p name s (.error
        (.tooLarge (Limits.active.maxFileSize + 1) Limits.active.maxFileSize))
  | failed : s.data.size ≤ Limits.active.maxFileSize → s.fault = some f →
      Answers p name s (.error (.ofFault name f))
  | settled : s.data.size ≤ Limits.active.maxFileSize → s.fault = none →
      Settles p name name none s.data r → Answers p name s r

/-- The step that takes an answer of the system. -/
def take (path name message : String) : Except SystemFault α → Step α
  | .ok a => .ok a
  | .error fault => failBy path name message fault

/-- The steps behind the check of the size. -/
def contentSteps (p : Loader) (path place : String) (size : Nat)
    (modified : Option Timestamp) (bytes : ByteArray) : Step Loaded := do
  let source ← decode path bytes
  p.checkContent path { source, path := place, size, lines := Text.lineCount source, modified }

variable {p : Loader} {path place name : String} {modified : Option Timestamp}
  {bytes data : ByteArray} {s : Stream} {r r' : Except FileError Loaded}

theorem fileSteps_eq (p : Loader) (path : String) (f : FileAccess) :
    p.fileSteps path f = (do
      let canonical ← checkPath path f
      let size ← take path "file" "Failed to read file metadata" f.size
      checkSize path size
      let bytes ← take path "file" "Failed to read file" f.content
      p.contentSteps path canonical size f.modified bytes) := by
  unfold fileSteps
  cases f.size <;> cases f.content <;> rfl

theorem streamSteps_eq (p : Loader) (name : String) (read : Except SystemFault ByteArray) :
    p.streamSteps name read = (do
      let bytes ← take name "source" "Failed to read input" read
      checkSize name bytes.size
      p.contentSteps name name bytes.size none bytes) := by
  cases read <;> rfl

theorem toUTF8_eq_empty_iff {source : String} : source.toUTF8 = .empty ↔ source = "" := by
  rw [String.toUTF8_eq_toByteArray, ← String.toByteArray_inj]
  rfl

theorem decode_toUTF8 (path source : String) : decode path source.toUTF8 = .ok source := by
  rw [decode, Text.fromUTF8?_toUTF8]

theorem decode_of_not_valid (path : String) (invalid : ¬ bytes.IsValidUTF8) :
    ∃ event, decode path bytes = .error ⟨.invalidEncoding path, event⟩ := by
  have undecoded : String.fromUTF8? bytes = none := dif_neg invalid
  rw [decode, undecoded]
  exact ⟨_, rfl⟩

theorem exists_toUTF8 (valid : bytes.IsValidUTF8) : ∃ source : String, source.toUTF8 = bytes :=
  ⟨⟨bytes, valid⟩, rfl⟩

theorem contentSteps_settles (p : Loader) (path place : String) (modified : Option Timestamp)
    (bytes : ByteArray) :
    p.Settles path place modified bytes
      ((p.contentSteps path place bytes.size modified bytes).mapError Failure.error) := by
  by_cases valid : bytes.IsValidUTF8
  · obtain ⟨source, rfl⟩ := exists_toUTF8 valid
    simp only [contentSteps, decode_toUTF8, bind, Except.bind, checkContent]
    by_cases refused : source = "" ∧ p.rejectEmpty = true
    · obtain ⟨rfl, reject⟩ := refused
      simp only [reject]
      exact .empty rfl reject
    · have accepted : (p.rejectEmpty && source.isEmpty) = false := by
        rw [Bool.eq_false_iff, Ne, Bool.and_eq_true, String.isEmpty_iff, and_comm]
        exact refused
      simp only [accepted, Text.lineCount_eq]
      exact .loaded rfl (by rwa [toUTF8_eq_empty_iff])
  · obtain ⟨event, undecoded⟩ := decode_of_not_valid path valid
    simp only [contentSteps, undecoded, bind, Except.bind]
    exact .malformed valid

theorem Settles.unique (first : p.Settles path place modified bytes r)
    (second : p.Settles path place modified bytes r') : r = r' := by
  cases first with
  | malformed invalid =>
    cases second with
    | malformed => rfl
    | empty none => exact absurd (none ▸ String.isValidUTF8 "") invalid
    | loaded source => exact absurd (source ▸ String.isValidUTF8 _) invalid
  | empty none reject =>
    cases second with
    | malformed invalid => exact absurd (none ▸ String.isValidUTF8 "") invalid
    | empty => rfl
    | loaded _ accepted => exact absurd ⟨none, reject⟩ accepted
  | loaded source accepted =>
    cases second with
    | malformed invalid => exact absurd (source ▸ String.isValidUTF8 _) invalid
    | empty none reject => exact absurd ⟨none, reject⟩ accepted
    | loaded source' =>
      obtain rfl := String.toByteArray_inj.mp (source.trans source'.symm)
      rfl

theorem Answers.unique (first : p.Answers name s r) (second : p.Answers name s r') : r = r' := by
  -- Each answer is guarded by what the ones before it look for, so no two guards hold at once.
  cases first with
  | tooLarge more =>
    cases second with
    | tooLarge => rfl
    | failed within | settled within => omega
  | failed within fault =>
    cases second with
    | tooLarge more => omega
    | failed _ fault' =>
      obtain rfl := Option.some.inj (fault.symm.trans fault')
      rfl
    | settled _ none => simp [fault] at none
  | settled within none settles =>
    cases second with
    | tooLarge more => omega
    | failed _ fault => simp [fault] at none
    | settled _ _ settles' => exact settles.unique settles'

theorem checkSize_of_le (path : String) (within : size ≤ Limits.active.maxFileSize) :
    checkSize path size = .ok () := by
  rw [checkSize, if_neg (Nat.not_lt.mpr within)]

theorem checkSize_of_lt (path : String) (more : Limits.active.maxFileSize < size) :
    ∃ event, checkSize path size =
      .error ⟨.tooLarge size Limits.active.maxFileSize, event⟩ := by
  rw [checkSize, if_pos more]
  exact ⟨_, rfl⟩

theorem conclude_fst (p : Loader) (t : Timing) (path : String) (steps : Step Loaded) :
    (p.conclude t path steps).1 = steps.mapError Failure.error := by
  cases steps <;> rfl

theorem loadStream_fst (p : Loader) (t : Timing) (name : String) (s : Stream) :
    (p.loadStream t name s).1 =
      (p.streamSteps name (s.read (Limits.active.maxFileSize + 1)).1).mapError Failure.error :=
  p.conclude_fst t name _

theorem loadFile_fst (p : Loader) (t : Timing) (path : String) (f : FileAccess) :
    (p.loadFile t path f).1 = (p.fileSteps path f).mapError Failure.error :=
  p.conclude_fst t path _

theorem loadStream_answers (p : Loader) (t : Timing) (name : String) (s : Stream) :
    p.Answers name s (p.loadStream t name s).1 := by
  rw [loadStream_fst]
  by_cases more : Limits.active.maxFileSize < s.data.size
  -- The read ends before it meets the fault or a byte behind the limit.
  · have size : (s.data.extract 0 (Limits.active.maxFileSize + 1)).size =
        Limits.active.maxFileSize + 1 := by
      rw [ByteArray.size_extract]
      omega
    obtain ⟨event, refused⟩ := checkSize_of_lt name (Nat.lt_succ_self Limits.active.maxFileSize)
    simp only [Stream.read_of_le more, streamSteps, size, refused, bind, Except.bind]
    exact .tooLarge more
  · have within : s.data.size ≤ Limits.active.maxFileSize := Nat.le_of_not_lt more
    have all := Stream.read_of_lt (s := s) (Nat.lt_succ_of_le within)
    cases fault : s.fault with
    | some f =>
      rw [all, fault]
      exact .failed within fault
    | none =>
      have steps : p.streamSteps name (.ok s.data) =
          p.contentSteps name name s.data.size none s.data := by
        rw [streamSteps_eq]
        simp only [take, checkSize_of_le name within, bind, Except.bind]
      rw [all, fault]
      change p.Answers name s ((p.streamSteps name (.ok s.data)).mapError Failure.error)
      rw [steps]
      exact .settled within fault (p.contentSteps_settles name name none s.data)

/-- A stream is answered by its size, its fault, its bytes and the preferences, in this
order, and no more than one byte beyond the limit is taken from it. -/
theorem loadStream_eq_iff (p : Loader) (t : Timing) (name : String) (s : Stream) :
    (∀ r, (p.loadStream t name s).1 = r ↔ p.Answers name s r) ∧
      ∃ taken, s.data = taken ++ (p.consume t name s).2.data ∧
        taken.size ≤ Limits.active.maxFileSize + 1 := by
  refine ⟨fun r => ⟨?_, ?_⟩, s.exists_taken _⟩
  · rintro rfl
    exact p.loadStream_answers t name s
  · exact (p.loadStream_answers t name s).unique

end Loader

/-- What the system says of a regular file that can be read and does not change. -/
structure FileAccess.Holds (f : FileAccess) (place : String) (data : ByteArray) : Prop where
  found : f.found = true
  isFile : f.isFile = true
  canonical : f.canonical = .ok place
  size : f.size = .ok data.size
  content : f.content = .ok data

theorem FileTree.access_holds {t : FileTree} (isFile : (t.access path).isFile = true)
    (canonical : (t.access path).canonical = .ok place)
    (content : (t.access path).content = .ok data) : (t.access path).Holds place data := by
  cases leads : t.follow path with
  | error => simp [access, leads] at isFile
  | ok target =>
    cases target with
    | outside | directory => simp [access, leads] at isFile
    | file =>
      simp only [access, leads] at canonical content ⊢
      exact ⟨rfl, rfl, canonical, by rw [Except.ok.inj content], content⟩

/-- The same error told of another source and its size. -/
def FileError.retold (path : String) (size : Nat) : FileError → FileError
  | notFound _ => notFound path
  | tooLarge _ limit => tooLarge size limit
  | empty _ => empty path
  | permissionDenied _ => permissionDenied path
  | invalidEncoding _ => invalidEncoding path
  | readFailure _ message => readFailure path message
  | invalidPath _ => invalidPath path

namespace Loader
variable {p : Loader} {path place name : String} {modified : Option Timestamp}
  {bytes data : ByteArray} {r : Except FileError Loaded} {f : FileAccess}

/-- The same answer told of the file at `path`, which is known as `place`. -/
def retold (path place : String) (modified : Option Timestamp) (size : Nat) :
    Except FileError Loaded → Except FileError Loaded
  | .ok l => .ok { l with path := place, modified }
  | .error e => .error (e.retold path size)

theorem Settles.retold (settles : p.Settles name name none bytes r) :
    p.Settles path place modified bytes (Loader.retold path place modified bytes.size r) := by
  cases settles with
  | malformed invalid => exact .malformed invalid
  | empty none reject => exact .empty none reject
  | loaded source accepted => exact .loaded source accepted

theorem fileSteps_of_holds (p : Loader) (holds : f.Holds place data) (named : path ≠ "") :
    p.fileSteps path f = (do
      checkSize path data.size
      p.contentSteps path place data.size f.modified data) := by
  have checked : checkPath path f = .ok place := by
    simp [checkPath, named, holds.found, holds.isFile, holds.canonical]
  rw [fileSteps_eq, checked, holds.size, holds.content]
  rfl

theorem loadFile_of_settles (t : Timing) (holds : f.Holds place data) (named : path ≠ "")
    (within : data.size ≤ Limits.active.maxFileSize)
    (settles : p.Settles path place f.modified data r) : (p.loadFile t path f).1 = r := by
  rw [loadFile_fst, p.fileSteps_of_holds holds named, checkSize_of_le path within]
  exact (p.contentSteps_settles path place f.modified data).unique settles

theorem loadFile_eq_retold (p : Loader) (t t' : Timing) (name : String)
    (holds : f.Holds place data) (named : path ≠ "") :
    (p.loadFile t path f).1 =
      retold path place f.modified data.size (p.loadStream t' name ⟨data, none⟩).1 := by
  have answers := p.loadStream_answers t' name ⟨data, none⟩
  generalize (p.loadStream t' name ⟨data, none⟩).1 = r at answers ⊢
  cases answers with
  | tooLarge more =>
    obtain ⟨event, refused⟩ := checkSize_of_lt path more
    rw [loadFile_fst, p.fileSteps_of_holds holds named, refused]
    rfl
  | failed _ fault => contradiction
  | settled within _ settles => exact loadFile_of_settles t holds named within settles.retold

/-- Told of a source of the same name, only the size in an error can be another. -/
theorem Answers.retold_error (answers : p.Answers path ⟨data, none⟩ (.error e)) (size : Nat) :
    e.retold path size = e ∨
      e = .tooLarge (Limits.active.maxFileSize + 1) Limits.active.maxFileSize := by
  cases answers with
  | tooLarge => exact .inr rfl
  | failed _ fault => contradiction
  | settled _ _ settles => cases settles <;> exact .inl rfl

/-- The error of a path that leads to no regular file. -/
inductive Refuses (f : FileAccess) (path : String) : FileError → Prop
  | unnamed : path = "" → Refuses f path (.invalidPath path)
  | missing : path ≠ "" → f.found = false → Refuses f path (.notFound path)
  | irregular : path ≠ "" → f.found = true → f.isFile = false → Refuses f path (.invalidPath path)

theorem Refuses.checkPath (refuses : Refuses f path e) :
    ∃ event, checkPath path f = .error ⟨e, event⟩ := by
  cases refuses with
  | unnamed unnamed => exact ⟨_, by rw [Loader.checkPath, unnamed]; rfl⟩
  | missing named missing => exact ⟨_, by simp [Loader.checkPath, named, missing]; rfl⟩
  | irregular named found irregular =>
    exact ⟨_, by simp [Loader.checkPath, named, found, irregular]; rfl⟩

/-- A path is refused before anything is read: what could be read does not matter. -/
theorem loadFile_of_refuses (p : Loader) (t : Timing) (refuses : Refuses f path e) :
    (p.loadFile t path f).1 = .error e ∧
      ∀ size content, p.loadFile t path { f with size, content } = p.loadFile t path f := by
  obtain ⟨event, refused⟩ := refuses.checkPath
  have stopped (size content) : p.fileSteps path { f with size, content } = .error ⟨e, event⟩ := by
    have refused' : Loader.checkPath path { f with size, content } = .error ⟨e, event⟩ := refused
    rw [fileSteps, refused']
    rfl
  have stopped' : p.fileSteps path f = .error ⟨e, event⟩ := stopped f.size f.content
  refine ⟨by rw [loadFile_fst, stopped']; rfl, fun size content => ?_⟩
  rw [loadFile, loadFile, stopped, stopped']

/-- A file and a stream of the same bytes are answered alike: what is loaded differs in path
and time at most, and an error in the size that it tells. A path that leads to no regular
file is refused before anything is read. -/
theorem loads_agree (p : Loader) (t t' : Timing) (path : String) (f : FileAccess) :
    (∀ place data, path ≠ "" → f.Holds place data →
      (∀ name, (p.loadFile t path f).1 =
        retold path place f.modified data.size (p.loadStream t' name ⟨data, none⟩).1) ∧
      ∀ e, (p.loadStream t' path ⟨data, none⟩).1 = .error e →
        e.retold path data.size = e ∨
          e = .tooLarge (Limits.active.maxFileSize + 1) Limits.active.maxFileSize) ∧
    ∀ e, Refuses f path e → (p.loadFile t path f).1 = .error e ∧
      ∀ size content, p.loadFile t path { f with size, content } = p.loadFile t path f := by
  refine ⟨fun place data named holds => ⟨?_, ?_⟩, fun e => p.loadFile_of_refuses t⟩
  · intro name
    exact p.loadFile_eq_retold t t' name holds named
  · intro e failed
    have answers := p.loadStream_answers t' path ⟨data, none⟩
    rw [failed] at answers
    exact answers.retold_error data.size

/-- In a tree with one file, that file and the directory it is in. -/
theorem loads_agree_in_tree :
    let tree : FileTree := ⟨"/home", [], [(["src", "a"], "int é\n".toUTF8)]⟩
    let p : Loader := ⟨true, true⟩
    let t : Timing := ⟨"0.00", fun _ => "0.00"⟩
    ("src/a" ≠ "" ∧ (tree.access "src/a").Holds "/home/src/a" "int é\n".toUTF8 ∧
      (p.loadFile t "src/a" (tree.access "src/a")).1 =
        retold "src/a" "/home/src/a" (tree.access "src/a").modified "int é\n".toUTF8.size
          (p.loadStream t "<stdin>" ⟨"int é\n".toUTF8, none⟩).1) ∧
    Refuses (tree.access "src") "src" (.invalidPath "src") ∧
      (p.loadFile t "src" (tree.access "src")).1 = .error (.invalidPath "src") := by
  intro tree p t
  have named : "src/a" ≠ "" := by decide
  have holds : (tree.access "src/a").Holds "/home/src/a" "int é\n".toUTF8 := by
    apply FileTree.access_holds <;> decide +kernel
  have refuses : Refuses (tree.access "src") "src" (.invalidPath "src") :=
    .irregular (by decide) (by decide +kernel) (by decide +kernel)
  exact ⟨⟨named, holds, ((p.loads_agree t t "src/a" _).1 _ _ named holds).1 "<stdin>"⟩,
    refuses, ((p.loads_agree t t "src" _).2 _ refuses).1⟩

end Loader
end ScriptScan
