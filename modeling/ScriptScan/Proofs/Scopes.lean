import ScriptScan.Analysis
import ScriptScan.Proofs.Delivery

/-! Work on a file in the middle of the work on another. The end of a scope forgets its file and
does not bring back the file around it, so a journal tells of the file around a scope only up to
the first scope in it. -/
namespace ScriptScan.Journal

/-- Work that logs. A scope names the file that is worked on. -/
inductive Work
  | log (r : LogRequest)
  | within (path : String) (body : List Work)
  | analyzeFile (a : Analyzer) (path : String) (size lines : Nat) (text : String)

namespace Work

mutual

def run (j : Journal) : Work → Journal
  | log r => j.log r
  | within path body => (j.withFile path fun j => ((), runAll j body)).2
  | analyzeFile a path size lines text => (a.analyzeFile j path size lines text).2.2

def runAll (j : Journal) : List Work → Journal
  | [] => j
  | w :: ws => runAll (run j w) ws

end

def isLog : Work → Bool
  | log _ => true
  | within .. | analyzeFile .. => false

mutual

/-- The events of some work, each with the file that is noted for it, when `behind` says which
file is noted behind work that was begun with a file. -/
def told (behind : Option String → Work → Option String) (file : Option String) :
    Work → List (Event × Option String)
  | log r => [(r.event.withFields r.fields, file)]
  | within path body => toldAll behind (some path) body
  | analyzeFile a path size lines text =>
    (fileEvent size lines :: (Analysis.ofText a.preferences text).events).map (·, some path)

def toldAll (behind : Option String → Work → Option String) (file : Option String) :
    List Work → List (Event × Option String)
  | [] => []
  | w :: ws => told behind file w ++ toldAll behind (behind file w) ws

end

/-- The file that is noted behind some work. -/
def left (file : Option String) (w : Work) : Option String := if w.isLog then file else none

/-- The file that would be noted if scopes brought back the file around them. -/
def restored (file : Option String) (_ : Work) : Option String := file

/-- No request comes behind a scope or the analysis of a file. -/
def LogsFirst (ws : List Work) : Prop := ws.Pairwise fun v w => w.isLog → v.isLog

/-- In every scope the requests come first. -/
inductive Tidy : Work → Prop
  | log (r : LogRequest) : Tidy (log r)
  | within (path : String) {body : List Work} : LogsFirst body → (∀ w ∈ body, Tidy w) →
    Tidy (within path body)
  | analyzeFile (a : Analyzer) (path : String) (size lines : Nat) (text : String) :
    Tidy (analyzeFile a path size lines text)

/-- What is told of an event, the file apart, which may be missing. -/
structure Forgets (told right : Event × Option String) : Prop where
  event : told.1 = right.1
  file : told.2 = right.2 ∨ told.2 = none

end Work

def tagAll (events : List (Event × Option String)) : List Event :=
  events.map fun (e, file) => tag file e

theorem tagAll_append (es fs : List (Event × Option String)) :
    tagAll (es ++ fs) = tagAll es ++ tagAll fs := List.map_append ..

theorem analyzeFile_eq (a : Analyzer) (j : Journal) (path : String) (size lines : Nat)
    (text : String) : (a.analyzeFile j path size lines text).2.2 =
      (j.deliverAll (tagAll (Work.told Work.left j.file
        (.analyzeFile a path size lines text)))).noting none := by
  have events : (a.analyzeFile j path size lines text).2.2 =
      ((j.noting (some path)).reportAll
        (fileEvent size lines :: (Analysis.ofText a.preferences text).events)).noting none := rfl
  rw [events, reportAll_eq, deliverAll_noting, noting_noting, Work.told, tagAll, List.map_map]
  rfl

mutual

/-- Work hands its events to the service, and only a log leaves the note as it was. -/
theorem run_eq (j : Journal) : (w : Work) →
    w.run j = (j.deliverAll (tagAll (w.told Work.left j.file))).noting (w.left j.file)
  | .log r => by
    rw [Work.run, log_eq, Work.told]
    exact (noting_self _).symm.trans (congrArg _ (deliver_file _ j))
  | .within path body => by
    have scope : Work.run j (.within path body) =
        (Work.runAll (j.noting (some path)) body).noting none := by rw [Work.run]; rfl
    rw [scope, runAll_eq, deliverAll_noting, noting_noting, noting_noting, Work.told]
    rfl
  | .analyzeFile a path size lines text => by
    rw [Work.run, analyzeFile_eq]
    rfl

theorem runAll_eq (j : Journal) : (ws : List Work) →
    Work.runAll j ws =
      (j.deliverAll (tagAll (Work.toldAll Work.left j.file ws))).noting
        (ws.foldl Work.left j.file)
  | [] => by rw [Work.runAll, Work.toldAll]; rfl
  | w :: ws => by
    rw [Work.runAll, runAll_eq _ ws, run_eq j w, deliverAll_noting, noting_noting, Work.toldAll,
      tagAll_append, deliverAll_append]
    rfl

end

namespace Work

theorem induction {motive : Work → Prop} (log : ∀ r, motive (log r))
    (within : ∀ path body, (∀ w ∈ body, motive w) → motive (within path body))
    (analyzeFile : ∀ a path size lines text, motive (analyzeFile a path size lines text))
    (w : Work) : motive w := by
  refine Work.rec (motive_1 := motive) (motive_2 := fun ws => ∀ w ∈ ws, motive w)
    log within analyzeFile ?_ ?_ w
  · simp
  · intro w ws head tail
    exact List.forall_mem_cons.mpr ⟨head, tail⟩

mutual

/-- A file that is noted is never that of another scope. -/
theorem told_forgets {file file' : Option String} (kept : file = file' ∨ file = none) :
    (w : Work) → List.Forall₂ Forgets (told left file w) (told restored file' w)
  | .log r => by
    rw [told, told]
    exact .cons ⟨rfl, kept⟩ .nil
  | .within path body => by
    rw [told, told]
    exact toldAll_forgets (.inl rfl) body
  | .analyzeFile a path size lines text => by
    rw [told, told]
    exact List.forall₂_same.mpr fun _ _ => ⟨rfl, .inl rfl⟩

theorem toldAll_forgets {file file' : Option String} (kept : file = file' ∨ file = none) :
    (ws : List Work) → List.Forall₂ Forgets (toldAll left file ws) (toldAll restored file' ws)
  | [] => by
    rw [toldAll, toldAll]
    exact .nil
  | w :: ws => by
    have behind : left file w = restored file' w ∨ left file w = none := by
      rw [left]
      split
      · exact kept
      · exact .inr rfl
    rw [toldAll, toldAll]
    exact List.rel_append (told_forgets kept w) (toldAll_forgets behind ws)

end

theorem toldAll_cons_eq_iff {file file' : Option String} (kept : file = file' ∨ file = none)
    (w : Work) (ws : List Work) : toldAll left file (w :: ws) = toldAll restored file' (w :: ws) ↔
      told left file w = told restored file' w ∧
        toldAll left (left file w) ws = toldAll restored file' ws := by
  rw [toldAll, toldAll]
  constructor
  · intro same
    exact List.append_inj same (told_forgets kept w).length_eq
  · rintro ⟨head, tail⟩
    rw [head, tail, restored]

/-- Work is told as if scopes brought back the file around them just when it is tidy, and a
request just when its file is noted. -/
def RightlyTold (w : Work) : Prop :=
  ∀ file file', told left file w = told restored file' w ↔ (w.isLog → file = file') ∧ w.Tidy

/-- Once a scope has ended, no request may come. -/
theorem toldAll_forgotten_iff {ws : List Work} (rightly : ∀ w ∈ ws, w.RightlyTold)
    (file : Option String) : toldAll left none ws = toldAll restored file ws ↔
      (file = none ∨ ∀ w ∈ ws, ¬ w.isLog) ∧ ∀ w ∈ ws, w.Tidy := by
  induction ws with
  | nil => simp [toldAll]
  | cons w ws ih =>
    have behind : left none w = none := ite_self ..
    rw [toldAll_cons_eq_iff (.inr rfl), rightly w List.mem_cons_self, behind,
      ih fun v member => rightly v (List.mem_cons_of_mem w member), List.forall_mem_cons,
      List.forall_mem_cons]
    grind

theorem logsFirst_cons_of_log {w : Work} (log : w.isLog) (ws : List Work) :
    LogsFirst (w :: ws) ↔ LogsFirst ws :=
  List.pairwise_cons.trans (and_iff_right fun _ _ _ => log)

theorem logsFirst_cons_of_scope {w : Work} (scope : ¬ w.isLog) (ws : List Work) :
    LogsFirst (w :: ws) ↔ ∀ v ∈ ws, ¬ v.isLog := by
  constructor
  · intro first v member log
    exact scope ((List.pairwise_cons.mp first).1 v member log)
  · intro quiet
    refine List.pairwise_cons.mpr ⟨fun v member log => absurd log (quiet v member), ?_⟩
    exact List.pairwise_of_forall_mem_list fun v _ u member log => absurd log (quiet u member)

theorem toldAll_kept_iff {ws : List Work} (rightly : ∀ w ∈ ws, w.RightlyTold)
    (file : Option String) : toldAll left file ws = toldAll restored file ws ↔
      (file = none ∨ LogsFirst ws) ∧ ∀ w ∈ ws, w.Tidy := by
  induction ws with
  | nil => simp [toldAll, LogsFirst]
  | cons w ws ih =>
    have rest : ∀ v ∈ ws, v.RightlyTold := fun v member =>
      rightly v (List.mem_cons_of_mem w member)
    rw [toldAll_cons_eq_iff (.inl rfl), rightly w List.mem_cons_self,
      and_iff_right fun _ => rfl, List.forall_mem_cons, ← and_left_comm]
    by_cases log : w.isLog
    · rw [left, if_pos log, ih rest, logsFirst_cons_of_log log]
    · rw [left, if_neg log, toldAll_forgotten_iff rest, logsFirst_cons_of_scope log]

theorem rightlyTold (w : Work) : w.RightlyTold := by
  induction w using Work.induction with
  | log r =>
    intro file file'
    simp [told, isLog, Tidy.log]
  | within path body ih =>
    intro file file'
    have tidy : (within path body).Tidy ↔ LogsFirst body ∧ ∀ w ∈ body, w.Tidy := by
      constructor
      · rintro (_ | ⟨_, first, each⟩)
        exact ⟨first, each⟩
      · rintro ⟨first, each⟩
        exact .within path first each
    rw [told, told, toldAll_kept_iff ih, tidy]
    simp [isLog]
  | analyzeFile a path size lines text =>
    intro file file'
    simp [told, isLog, Tidy.analyzeFile]

theorem foldl_left (file : Option String) (ws : List Work) :
    ws.foldl left file = if ws.all isLog then file else none := by
  induction ws generalizing file with
  | nil => rfl
  | cons w ws ih =>
    rw [List.foldl_cons, ih, left, List.all_cons]
    cases w.isLog <;> cases ws.all isLog <;> rfl

end Work

/-- A scope runs with its file and restores the one around it only if that is none. Over any
nesting of scopes, a request is told with the file of its own scope or with none, and all are told
with that of their own just when each scope has its requests ahead of the scopes in it. -/
theorem withFile_restores_iff {α : Type} (j : Journal) (path : String)
    (body : Journal → α × Journal) (works : List Work) :
    (j.withFile path body).1 = (body (j.noting (some path))).1 ∧
    ((j.withFile path body).2.file = j.file ↔ j.file = none) ∧
    Work.runAll j works =
      (j.deliverAll (tagAll (Work.toldAll Work.left j.file works))).noting
        (if works.all Work.isLog then j.file else none) ∧
    List.Forall₂ Work.Forgets (Work.toldAll Work.left j.file works)
      (Work.toldAll Work.restored j.file works) ∧
    (Work.toldAll Work.left j.file works = Work.toldAll Work.restored j.file works ↔
      (j.file = none ∨ Work.LogsFirst works) ∧ ∀ w ∈ works, w.Tidy) := by
  refine ⟨rfl, eq_comm, ?_, Work.toldAll_forgets (.inl rfl) works, ?_⟩
  · rw [runAll_eq, Work.foldl_left]
  · exact Work.toldAll_kept_iff (fun w _ => w.rightlyTold) j.file

/-- An empty scope inside another. The file of the outer one is not there behind it, and what is
logged then is told without a file. -/
theorem inner_scope_forgets_outer :
    let started : Journal := { service := some ⟨.memory {}, .debug⟩ }
    let body : Journal → Unit × Journal := fun j => ((), j)
    (∀ j, (body j).2.file = j.file) ∧
    (started.withFile "outer" fun j =>
      let before := j.file
      let (_, j) := j.withFile "inner" body
      ((before, j.file), j)).1 = (some "outer", none) ∧
    (Work.run started (.within "outer" [.within "inner" [],
      .log (.info "later" [])])).events.toList.map (·.context) = [[]] :=
  ⟨fun _ => rfl, rfl, by decide +kernel⟩

end ScriptScan.Journal
