import RecordBase.Catalog.Basic
import RecordBase.Proofs.Catalog.Logs

/-!
# Where databases are kept

The name of a database is one step from the directory of all databases (`Files.Path.ofText_join`), so
different names lead to different directories in it (`Disk.find_of_takes`). This is so of every name
that a catalog takes (`Catalog.isStep_of_checkName`).

`Disk.Keeps`: a directory holds a database with a certain log. `Disk.Sets`: a disk has come to keep a
log in a directory, and is otherwise as it was. This is what all of the following do: making a
directory (`Disk.provide_of_absent`), opening the files in it (`Disk.sets_openFiles`), and writing the
log (`Disk.Keeps.sets_writeLog`).
-/

namespace RecordBase

open Files (Path Place Refusal Tree)

/-! ## The way to a name -/

namespace Files

theorem splitSlashes_of_none {chars : List Char} (h : ∀ c ∈ chars, c ≠ '/') :
    splitSlashes chars = [chars] := by
  induction chars with
  | nil => rfl
  | cons c rest ih =>
    rw [splitSlashes, if_neg (h c List.mem_cons_self), ih fun d hd => h d (List.mem_cons_of_mem c hd)]

theorem splitSlashes_append (front back : List Char) :
    splitSlashes (front ++ '/' :: back) = splitSlashes front ++ splitSlashes back := by
  induction front with
  | nil => rfl
  | cons c rest ih =>
    rw [List.cons_append, splitSlashes, splitSlashes, ih]
    split
    · rfl
    · cases hrest : splitSlashes rest with
      | nil => exact absurd hrest (splitSlashes_ne_nil rest)
      | cons first others => rfl

namespace Path

/-- The steps from the outermost directory to the one that names are joined to. -/
def before (directory : String) : Path :=
  if directory.isEmpty || directory.toList.getLast? = some '/' then (ofText directory).dropLast
  else ofText directory

/-- A name that is a step by itself. -/
structure IsStep (name : String) : Prop where
  step : Step.ofText name = .down name
  noSlash : ∀ c ∈ name.toList, c ≠ '/'

theorem ofText_join (directory : String) {name : String} (h : IsStep name) :
    ofText (join directory name) = before directory ++ [.down name] := by
  have hname : ∀ front : List Char, ((splitSlashes front ++ splitSlashes name.toList).map
      fun part => Step.ofText (String.ofList part)) =
      (splitSlashes front).map (fun part => Step.ofText (String.ofList part)) ++ [.down name] := by
    intro front
    rw [splitSlashes_of_none h.noSlash, List.map_append, List.map_singleton, String.ofList_toList,
      h.step]
  have hhead : ¬ name.toList.head? = some '/' := fun hhead =>
    h.noSlash '/' (List.mem_of_head? hhead) rfl
  rw [join, before, if_neg hhead]
  split
  · rename_i hends
    have hchars : (directory ++ name).toList = directory.toList ++ name.toList := by simp
    rw [Bool.or_eq_true, decide_eq_true_eq] at hends
    rcases hends with hempty | hslash
    · have hnone : directory.toList = [] := by simpa using hempty
      rw [ofText, ofText, hchars, hnone, List.nil_append, splitSlashes_of_none h.noSlash,
        List.map_singleton, String.ofList_toList, h.step]
      rfl
    · obtain ⟨front, hfront⟩ := List.getLast?_eq_some_iff.1 hslash
      rw [ofText, ofText, hchars, hfront, List.append_assoc, List.singleton_append,
        splitSlashes_append, splitSlashes_append, hname, splitSlashes, List.map_append,
        List.map_singleton, List.dropLast_concat]
  · have hchars : (directory ++ "/" ++ name).toList = directory.toList ++ '/' :: name.toList := by
      simp
    rw [ofText, hchars, splitSlashes_append, hname]
    rfl

end Path

end Files

/-- A name that a catalog takes is a step by itself. -/
theorem Catalog.isStep_of_checkName {name : String} (h : checkName name = .ok ()) :
    Path.IsStep name := by
  unfold checkName at h
  split at h
  · cases h
  · rename_i hgood
    simp only [Bool.or_eq_true, not_or, List.any_eq_true, decide_eq_true_eq, not_exists, not_and] at hgood
    obtain ⟨⟨⟨hempty, hdot⟩, hdots⟩, hchars⟩ := hgood
    refine ⟨?_, fun c hc => (hchars c hc).1.1.1⟩
    rw [Files.Step.ofText, if_neg hempty, if_neg hdot, if_neg hdots]

namespace Files

namespace Tree

variable {tree : Tree} {place root : Place} {name : String}

theorem follow_append_down (tree : Tree) (place : Place) (front : Path) (name : String) :
    tree.follow place (front ++ [.down name]) =
      (tree.follow place front).bind fun next => tree.step next (.down name) := by
  simp only [follow, List.foldlM_append, List.foldlM_cons, List.foldlM_nil]
  cases front.foldlM tree.step place with
  | error refusal => rfl
  | ok next => exact bind_pure (tree.step next (.down name))

/-- A step that can be taken makes no directory. -/
theorem makeStep_of_ok {step : Step} (h : tree.step place step = .ok root) :
    tree.makeStep place step = tree := by
  cases step with
  | down name =>
    simp only [Tree.step, enter] at h
    split at h
    · split at h
      · cases h
      · split at h
        · cases h
        · rename_i hthere
          simp only [makeStep, makeDirectory, Bool.eq_false_iff.2 hthere, Bool.and_false,
            Bool.false_eq_true, if_false]
    · cases h
  | _ => rfl

/-- A part of a path that can be followed makes no directory. -/
theorem makeAlong_append {front : Path} (h : tree.follow place front = .ok root) (back : Path) :
    tree.makeAlong place (front ++ back) = tree.makeAlong root back := by
  induction front generalizing place with
  | nil =>
    cases h
    rfl
  | cons step rest ih =>
    simp only [follow, List.foldlM_cons] at h
    cases hstep : tree.step place step with
    | error refusal =>
      rw [hstep] at h
      cases h
    | ok next =>
      rw [hstep] at h
      rw [List.cons_append, makeAlong, makeStep_of_ok hstep, hstep]
      exact ih h

theorem makeAlong_down (tree : Tree) (root : Place) (name : String) :
    tree.makeAlong root [.down name] =
      (((tree.makeDirectory (name :: root)).step root (.down name)),
        tree.makeDirectory (name :: root)) := by
  rw [makeAlong, makeStep]
  cases (tree.makeDirectory (name :: root)).step root (.down name) <;> rfl

/-- Following a path whose last step goes down makes directories along all of it. -/
theorem provide_append_down {front : Path} (h : tree.follow [] front = .ok root) (name : String) :
    tree.provide (front ++ [.down name]) =
      (((tree.makeDirectory (name :: root)).step root (.down name)).bind fun place =>
          if (tree.makeDirectory (name :: root)).isDirectory place then .ok place else .error .occupied,
        tree.makeDirectory (name :: root)) := by
  have hall : Path.makingLength (front ++ [Step.down name]) =
      (front ++ [Step.down name]).length := by
    simp [Path.makingLength, Step.stays]
  rw [provide, hall, List.take_length, List.drop_length, makeAlong_append h, makeAlong_down]
  rfl

end Tree

end Files

/-! ## Finding and making directories -/

namespace Disk

variable {disk : Disk} {root : Place} {name : String}

/-- The path of the directory of databases leads to a directory. -/
structure Rooted (disk : Disk) (root : Place) : Prop where
  leads : disk.tree.follow [] (Path.before disk.root) = .ok root
  directory : disk.tree.isDirectory root = true

/-- The system takes a name: neither it nor its path is too long. -/
def Takes (disk : Disk) (name : String) : Prop :=
  (∃ path, Path.parse (disk.path name) = .ok path) ∧ Tree.isName name = true

theorem eq_ofText_of_parse {text : String} {path : Path} (h : Path.parse text = .ok path) :
    path = Path.ofText text := by
  unfold Path.parse at h
  split at h
  · cases h
  · split at h <;> cases h
    rfl

theorem find_eq (rooted : disk.Rooted root) (step : Path.IsStep name) :
    disk.find name = (Path.parse (disk.path name)).bind fun _ => disk.tree.enter root name := by
  unfold find
  cases hparse : Path.parse (disk.path name) with
  | error refusal => rfl
  | ok path =>
    rw [eq_ofText_of_parse hparse, Disk.path, Path.ofText_join disk.root step]
    refine (disk.tree.follow_append_down [] (Path.before disk.root) name).trans ?_
    rw [rooted.leads]
    simp only [Except.bind, Tree.step, rooted.directory, if_true]

theorem find_of_takes (rooted : disk.Rooted root) (step : Path.IsStep name) (takes : disk.Takes name) :
    disk.find name =
      if (disk.tree.at? (name :: root)).isNone then .error .missing else .ok (name :: root) := by
  obtain ⟨⟨path, hpath⟩, hname⟩ := takes
  simp only [find_eq rooted step, hpath, Except.bind, Tree.enter, hname, Bool.not_true,
    Bool.false_eq_true, if_false]

theorem find_of_not_takes (rooted : disk.Rooted root) (step : Path.IsStep name)
    (refuses : ¬ disk.Takes name) : ∃ refusal, disk.find name = .error refusal := by
  rw [find_eq rooted step]
  cases hpath : Path.parse (disk.path name) with
  | error refusal => exact ⟨refusal, rfl⟩
  | ok path =>
    have hname : Tree.isName name = false := Bool.eq_false_iff.2 fun h => refuses ⟨⟨path, hpath⟩, h⟩
    simp only [Except.bind, Tree.enter, hname, Bool.not_false, if_true]
    exact ⟨_, rfl⟩

theorem find_of_at (rooted : disk.Rooted root) (step : Path.IsStep name) (takes : disk.Takes name)
    {node : Files.Node} (h : disk.tree.at? (name :: root) = some node) :
    disk.find name = .ok (name :: root) := by
  rw [find_of_takes rooted step takes, h]
  rfl

theorem provide_of_directory (rooted : disk.Rooted root) (step : Path.IsStep name)
    (takes : disk.Takes name) (h : disk.tree.at? (name :: root) = some .directory) (create : Bool) :
    disk.provide name create = (.ok (name :: root), disk) := by
  have hdirectory : disk.tree.isDirectory (name :: root) = true := by rw [Tree.isDirectory, h]
  simp only [provide, find_of_at rooted step takes h, hdirectory, if_true]

theorem make_eq (rooted : disk.Rooted root) (step : Path.IsStep name) {path : Path}
    (h : Path.parse (disk.path name) = .ok path) :
    disk.make name =
      ((((disk.tree.makeDirectory (name :: root)).step root (.down name)).bind fun place =>
          if (disk.tree.makeDirectory (name :: root)).isDirectory place then .ok place
          else .error .occupied),
        { disk with tree := disk.tree.makeDirectory (name :: root) }) := by
  have hpath : path = Path.before disk.root ++ [.down name] :=
    (eq_ofText_of_parse h).trans (Path.ofText_join disk.root step)
  simp only [make, h]
  rw [hpath, Tree.provide_append_down rooted.leads]

/-- A directory that is missing is made. -/
theorem provide_of_absent (rooted : disk.Rooted root) (step : Path.IsStep name)
    (takes : disk.Takes name) (h : disk.tree.at? (name :: root) = none) :
    ∃ tree : Tree, disk.provide name true = (.ok (name :: root), { disk with tree }) ∧
      ∀ place, tree.at? place =
        if place = name :: root then some .directory else disk.tree.at? place := by
  have hfind : disk.find name = .error .missing := by
    rw [find_of_takes rooted step takes, h]
    rfl
  obtain ⟨⟨path, hpath⟩, hname⟩ := takes
  let tree : Tree := ⟨disk.tree.nodes.insert (name :: root) .directory⟩
  have hmade : disk.tree.makeDirectory (name :: root) = tree := by
    simp only [Tree.makeDirectory, rooted.directory, hname, h, Option.isNone_none, Bool.and_self,
      if_true, tree]
  have hat (place : Place) : tree.at? place =
      if place = name :: root then some .directory else disk.tree.at? place :=
    Table.get?_insert ..
  have hhome : tree.at? (name :: root) = some .directory := (hat _).trans (if_pos rfl)
  have hroot : tree.isDirectory root = true := by
    have hne : root ≠ name :: root := fun h => absurd (congrArg List.length h) (by simp)
    rw [Tree.isDirectory, hat, if_neg hne]
    exact rooted.directory
  have hstep : tree.step root (.down name) = .ok (name :: root) := by
    simp only [Tree.step, hroot, if_true, Tree.enter, hname, Bool.not_true, Bool.false_eq_true,
      if_false, hhome, Option.isNone_some]
  have hdirectory : tree.isDirectory (name :: root) = true := by rw [Tree.isDirectory, hhome]
  refine ⟨tree, ?_, hat⟩
  simp only [provide, hfind, make_eq rooted step hpath, hmade, hstep, if_true]
  simp only [Except.bind, hdirectory, if_true]
  rfl

/-- A name that the system does not take makes nothing. -/
theorem provide_of_not_takes (rooted : disk.Rooted root) (step : Path.IsStep name)
    (refuses : ¬ disk.Takes name) :
    ∃ refusal, disk.provide name true = (.error (.system refusal), disk) := by
  obtain ⟨refusal, hfind⟩ := find_of_not_takes rooted step refuses
  cases hpath : Path.parse (disk.path name) with
  | error refusal =>
    refine ⟨refusal, ?_⟩
    simp only [provide, hfind, make, hpath, if_true]
    rfl
  | ok path =>
    have hname : Tree.isName name = false := Bool.eq_false_iff.2 fun h => refuses ⟨⟨path, hpath⟩, h⟩
    have hmade : disk.tree.makeDirectory (name :: root) = disk.tree := by
      simp only [Tree.makeDirectory, hname, Bool.and_false, Bool.false_and, Bool.false_eq_true,
        if_false]
    have hstep : disk.tree.step root (.down name) = .error .nameTooLong := by
      simp only [Tree.step, rooted.directory, if_true, Tree.enter, hname, Bool.not_false]
    refine ⟨.nameTooLong, ?_⟩
    simp only [provide, hfind, make_eq rooted step hpath, hmade, hstep, if_true]
    rfl

end Disk

/-! ## Trees that grow -/

namespace Files.Tree

variable {tree after : Tree} {place root : Place} {name : String}

/-- Directories stay directories, and what stands at a place does not leave it empty. -/
structure Grows (tree after : Tree) : Prop where
  directory {place : Place} : tree.isDirectory place = true → after.isDirectory place = true
  stands {place : Place} : (tree.at? place).isSome = true → (after.at? place).isSome = true

theorem Grows.step (grows : tree.Grows after) {step : Step} (h : tree.step place step = .ok root) :
    after.step place step = .ok root := by
  unfold Tree.step at h ⊢
  split at h
  · rename_i hplace
    rw [if_pos (grows.directory hplace)]
    cases step with
    | down name =>
      simp only [enter] at h ⊢
      split at h
      · cases h
      · rename_i hname
        rw [if_neg hname]
        split at h
        · cases h
        · rename_i hthere
          rw [if_neg, h]
          rw [Option.isNone_iff_eq_none, ← ne_eq, Option.ne_none_iff_isSome] at hthere ⊢
          exact grows.stands hthere
    | _ => exact h
  · cases h

/-- Where a path leads it goes on leading. -/
theorem Grows.follow (grows : tree.Grows after) {path : Path} (h : tree.follow place path = .ok root) :
    after.follow place path = .ok root := by
  induction path generalizing place with
  | nil => exact h
  | cons step rest ih =>
    simp only [Tree.follow, List.foldlM_cons] at h ⊢
    cases hstep : tree.step place step with
    | error refusal =>
      rw [hstep] at h
      cases h
    | ok next =>
      rw [hstep] at h
      rw [grows.step hstep]
      exact ih h

/-- A file is put at a place in a directory where no directory is. -/
theorem at?_writeFile (hplace : tree.isDirectory place = true) (hname : isName name = true)
    (hfree : tree.isDirectory (name :: place) = false) (bytes : Bytes) (other : Place) :
    (tree.writeFile bytes (name :: place)).at? other =
      if other = name :: place then some (.file bytes) else tree.at? other := by
  simp only [writeFile, hplace, hname, hfree, Bool.not_false, Bool.and_self, if_true]
  exact Table.get?_insert ..

/-- A file is opened, and is there then. -/
theorem openFile_of_free (hplace : tree.isDirectory place = true) (hname : isName name = true)
    (hfree : tree.isDirectory (name :: place) = false) :
    ∃ after : Tree, tree.openFile (name :: place) =
        (.ok ((tree.file? (name :: place)).getD []), after) ∧
      ∀ other, after.at? other = if other = name :: place then
        some (.file ((tree.file? (name :: place)).getD [])) else tree.at? other := by
  unfold openFile
  rw [if_neg (Bool.eq_false_iff.1 hfree)]
  cases hfile : tree.file? (name :: place) with
  | some bytes =>
    refine ⟨tree, rfl, fun other => ?_⟩
    split
    · rename_i hother
      unfold file? at hfile
      split at hfile <;> cases hfile
      rename_i hat
      rw [hother, hat]
      rfl
    · rfl
  | none => exact ⟨_, rfl, at?_writeFile hplace hname hfree []⟩

end Files.Tree

/-! ## A log in a directory -/

namespace Disk

variable {disk after last : Disk} {root home : Place} {name : String} {log bytes : Bytes}

/-- A directory holds a database with a log. -/
structure Keeps (disk : Disk) (home : Place) (log : Bytes) : Prop where
  directory : disk.tree.at? home = some .directory
  lock : ∃ bytes, disk.tree.at? (lockName :: home) = some (.file bytes)
  log : disk.tree.at? (logName :: home) = some (.file log)

/-- A disk has come to keep a log in a directory, and is otherwise as before. -/
structure Sets (before : Disk) (home : Place) (log : Bytes) (after : Disk) : Prop where
  root : after.root = before.root
  grows : before.tree.Grows after.tree
  keeps : after.Keeps home log
  apart {place : Place} : place ≠ home → place ≠ lockName :: home → place ≠ logName :: home →
    after.tree.at? place = before.tree.at? place

theorem Keeps.log? (keeps : disk.Keeps home log) : disk.log? home = some log := by
  rw [Disk.log?, Tree.file?, keeps.log]

theorem Keeps.isDirectory (keeps : disk.Keeps home log) : disk.tree.isDirectory home = true := by
  rw [Tree.isDirectory, keeps.directory]

theorem Sets.rooted (sets : disk.Sets home log after) (rooted : disk.Rooted root) :
    after.Rooted root where
  leads := sets.root ▸ sets.grows.follow rooted.leads
  directory := sets.grows.directory rooted.directory

theorem Sets.takes (sets : disk.Sets home log after) : after.Takes name ↔ disk.Takes name := by
  rw [Takes, Takes, Disk.path, Disk.path, sets.root]

theorem cons_ne_of_length {place other : Place} (h : place.length = other.length) (name : String) :
    place ≠ name :: other := by
  intro he
  rw [he, List.length_cons] at h
  omega

/-- Nothing happens beside the directory. -/
theorem Sets.at?_beside {other : Place} (sets : disk.Sets home log after)
    (hlength : other.length = home.length) (hne : other ≠ home) :
    after.tree.at? other = disk.tree.at? other :=
  sets.apart hne (cons_ne_of_length hlength _) (cons_ne_of_length hlength _)

/-- Another database is kept as before. -/
theorem Sets.keeps_beside {other : Place} {kept : Bytes} (sets : disk.Sets home log after)
    (hlength : other.length = home.length) (hne : other ≠ home) (keeps : disk.Keeps other kept) :
    after.Keeps other kept := by
  have hsame (file : String) : after.tree.at? (file :: other) = disk.tree.at? (file :: other) :=
    sets.apart (cons_ne_of_length hlength.symm file).symm (fun h => hne (List.cons.inj h).2)
      fun h => hne (List.cons.inj h).2
  refine ⟨(sets.at?_beside hlength hne).trans keeps.directory, ?_, (hsame logName).trans keeps.log⟩
  rw [hsame]
  exact keeps.lock

theorem Sets.trans (sets : disk.Sets home log after) (next : after.Sets home bytes last) :
    disk.Sets home bytes last where
  root := next.root.trans sets.root
  grows := ⟨fun h => next.grows.directory (sets.grows.directory h),
    fun h => next.grows.stands (sets.grows.stands h)⟩
  keeps := next.keeps
  apart h h' h'' := (next.apart h h' h'').trans (sets.apart h h' h'')

/-- A tree in which only files of a directory were written has grown. -/
theorem grows_of_file {tree after : Tree} {place : Place} {bytes : Bytes}
    (hat : ∀ other, after.at? other = if other = place then some (.file bytes) else tree.at? other)
    (hfree : tree.isDirectory place = false) : tree.Grows after where
  directory {other} h := by
    have hne : other ≠ place := fun he => by
      rw [he, hfree] at h
      cases h
    rw [Tree.isDirectory, hat, if_neg hne]
    exact h
  stands {other} h := by
    rw [hat]
    split
    · rfl
    · exact h

theorem isName_logName : Tree.isName logName = true := by decide +kernel

theorem isName_lockName : Tree.isName lockName = true := by decide +kernel

theorem Keeps.sets_writeLog (keeps : disk.Keeps home log) (bytes : Bytes) :
    disk.Sets home bytes (disk.writeLog home bytes) := by
  have hfree : disk.tree.isDirectory (logName :: home) = false := by
    rw [Tree.isDirectory, keeps.log]
  have hat := Tree.at?_writeFile keeps.isDirectory isName_logName hfree bytes
  obtain ⟨held, hlock⟩ := keeps.lock
  refine ⟨rfl, grows_of_file hat hfree, ⟨?_, ⟨held, ?_⟩, ?_⟩, fun _ _ h => ?_⟩
  · exact (hat home).trans ((if_neg (cons_ne_of_length rfl _)).trans keeps.directory)
  · exact (hat _).trans ((if_neg (by simp [lockName, logName])).trans hlock)
  · exact (hat _).trans (if_pos rfl)
  · exact (hat _).trans (if_neg h)

/-- Writing the log that is there changes nothing. -/
theorem Keeps.writeLog_self (keeps : disk.Keeps home log) : disk.writeLog home log = disk := by
  have hfree : disk.tree.isDirectory (logName :: home) = false := by
    rw [Tree.isDirectory, keeps.log]
  have hsame : disk.tree.nodes.insert (logName :: home) (.file log) = disk.tree.nodes :=
    Table.insert_eq_self keeps.log
  simp only [writeLog, Tree.writeFile, keeps.isDirectory, isName_logName, hfree, Bool.not_false,
    Bool.and_self, if_true, hsame]

/-- The files of a directory are opened, and are there then. -/
theorem sets_openFiles (hdirectory : disk.tree.at? home = some .directory)
    (hlock : disk.tree.isDirectory (lockName :: home) = false)
    (hlog : disk.tree.isDirectory (logName :: home) = false) :
    ∃ locking after, disk.openLock home = (.ok (), locking) ∧
      locking.openLog home = (.ok ((disk.log? home).getD []), after) ∧
      disk.Sets home ((disk.log? home).getD []) after := by
  have hhome : disk.tree.isDirectory home = true := by rw [Tree.isDirectory, hdirectory]
  obtain ⟨tree, hopen, hat⟩ := Tree.openFile_of_free hhome isName_lockName hlock
  have hne : logName :: home ≠ lockName :: home := by simp [lockName, logName]
  have hhome' : tree.isDirectory home = true := by
    rw [Tree.isDirectory, hat, if_neg (cons_ne_of_length rfl _), hdirectory]
  have hlog' : tree.isDirectory (logName :: home) = false := by
    rw [Tree.isDirectory, hat, if_neg hne]
    exact hlog
  have hfile : tree.file? (logName :: home) = disk.log? home := by
    rw [Tree.file?, hat, if_neg hne]
    rfl
  obtain ⟨last, hopen', hat'⟩ := Tree.openFile_of_free hhome' isName_logName hlog'
  rw [hfile] at hopen' hat'
  have hkeeps : ({ disk with tree := last } : Disk).Keeps home ((disk.log? home).getD []) :=
    { directory := by
        show last.at? home = _
        rw [hat', if_neg (cons_ne_of_length rfl _), hat, if_neg (cons_ne_of_length rfl _), hdirectory]
      lock := ⟨_, ((hat' _).trans (if_neg hne.symm)).trans ((hat _).trans (if_pos rfl))⟩
      log := (hat' _).trans (if_pos rfl) }
  refine ⟨{ disk with tree }, { disk with tree := last }, ?_, ?_, rfl,
    ⟨fun h => (grows_of_file hat' hlog').directory ((grows_of_file hat hlock).directory h),
      fun h => (grows_of_file hat' hlog').stands ((grows_of_file hat hlock).stands h)⟩,
    hkeeps, fun h h' h'' => ((hat' _).trans (if_neg h'')).trans ((hat _).trans (if_neg h'))⟩
  · rw [openLock, hopen]
    rfl
  · rw [openLog, hopen']
    rfl

end Disk

end RecordBase
