import UpsMonitor.Proofs.SortedMap
import UpsMonitor.Telemetry.Recorder

/-!
# What there is in the folder

The folder as the list of its entries, in the order of their names, and what each operation of the
disk does to that list. Main statements:

* `entries_append`, `entries_pruned`: a line goes where its handle is, and of the telemetry files
  only those that are too many go;
* `openAppend_ok`, `openAppend_new`: opening a file touches no name but its own;
* `mem_excess_iff`: a telemetry file is too many exactly if as many as are kept have later names;
* `telemetry_pruned`: of a folder's telemetry files the last ones by name are left;
* `Sound.addFile`, `Sound.append`, `Sound.pruned`: handles that were not given out yet are not in
  use.
-/

namespace UpsMonitor.Telemetry

/-! ## Which files are too many -/

/-- The other name is that of a telemetry file, and a later one. -/
def isLater (name other : String) : Bool := isTelemetryName other && decide (name < other)

theorem isLater_self (name : String) : isLater name name = false := by
  rw [isLater, decide_eq_false (String.lt_irrefl name), Bool.and_false]

theorem mem_take_append_cons_iff {α : Type} {front back : List α} {item : α}
    (first : item ∉ front) (count : Nat) :
    item ∈ (front ++ item :: back).take count ↔ front.length < count := by
  rw [List.take_append, List.mem_append]
  rcases Nat.lt_or_ge front.length count with enough | short
  · obtain ⟨more, rfl⟩ := Nat.exists_eq_add_of_lt enough
    have one_more : front.length + more + 1 - front.length = more + 1 := by omega
    rw [one_more, List.take_succ_cons]
    exact iff_of_true (.inr List.mem_cons_self) enough
  · rw [Nat.sub_eq_zero_of_le short, List.take_zero]
    refine iff_of_false ?_ (Nat.not_lt.mpr short)
    rintro (early | late)
    · exact first (List.mem_of_mem_take early)
    · cases late

/-- **A telemetry file is too many** exactly if as many as are kept have later names. -/
theorem mem_excess_iff {names : List String} {name : String} (sorted : names.Pairwise (· < ·))
    (member : name ∈ names) (kind : isTelemetryName name = true) (maxFiles : Nat) :
    name ∈ Recorder.excess maxFiles names ↔ maxFiles ≤ (names.filter (isLater name)).length := by
  -- The telemetry files are in order, so those behind this one are exactly those with later names.
  obtain ⟨front, back, parts⟩ := List.append_of_mem (List.mem_filter.mpr ⟨member, kind⟩)
  have files_sorted := sorted.filter isTelemetryName
  rw [parts] at files_sorted
  obtain ⟨-, tail_sorted, before⟩ := List.pairwise_append.mp files_sorted
  have front_lt : ∀ other ∈ front, other < name :=
    fun other early => before other early name List.mem_cons_self
  have lt_back : ∀ other ∈ back, name < other := (List.pairwise_cons.mp tail_sorted).1
  have first : name ∉ front := fun early => absurd (front_lt name early) (String.lt_irrefl _)
  have behind : names.filter (isLater name) = back := by
    have none_before : front.filter (decide <| name < ·) = [] := List.filter_eq_nil_iff.mpr
      fun other early later =>
        String.lt_irrefl _ (String.lt_trans (front_lt other early) (of_decide_eq_true later))
    have all_behind : back.filter (decide <| name < ·) = back :=
      List.filter_eq_self.mpr fun other late => decide_eq_true (lt_back other late)
    have both : names.filter (isLater name) =
        (names.filter isTelemetryName).filter (decide <| name < ·) := by
      rw [List.filter_filter]
      exact List.filter_congr fun other _ => Bool.and_comm _ _
    have not_itself : ¬ decide (name < name) = true :=
      fun lt => String.lt_irrefl name (of_decide_eq_true lt)
    rw [both, parts, List.filter_append, none_before, List.nil_append,
      List.filter_cons, if_neg not_itself, all_behind]
  rw [Recorder.excess, parts, behind, mem_take_append_cons_iff first]
  simp only [List.length_append, List.length_cons]
  omega

namespace Entry

def isFile : Entry → Bool
  | file _ _ => true
  | folder => false

def lines? : Entry → Option (List String)
  | file _ lines => some lines
  | folder => none

/-- The entry after a line is written to an open file. -/
def written (handle : Nat) (line : String) : Entry → Entry
  | file held lines => file held (if held = handle then lines ++ [line] else lines)
  | folder => folder

@[simp] theorem written_file (handle : Nat) (line : String) (lines : List String) :
    (file handle lines).written handle line = file handle (lines ++ [line]) := by
  simp [written]

theorem written_of_ne {held handle : Nat} (apart : held ≠ handle) (line : String)
    (lines : List String) : (file held lines).written handle line = file held lines := by
  simp [written, apart]

/-- A line that is written to another file leaves the entries as they are. -/
theorem map_written_of_ne {entries : List (String × Entry)} {handle : Nat}
    (apart : ∀ name held lines, (name, file held lines) ∈ entries → held ≠ handle)
    (line : String) :
    entries.map (fun (name, entry) => (name, entry.written handle line)) = entries := by
  have same : ∀ entry ∈ entries, (entry.1, entry.2.written handle line) = entry := by
    rintro ⟨name, entry⟩ member
    cases entry with
    | file held lines =>
      exact congrArg (name, ·) (written_of_ne (apart name held lines member) line lines)
    | folder => rfl
  exact (List.map_congr_left same).trans (List.map_id _)

end Entry

namespace Disk

/-- What there is in the folder, in the order of names. -/
def entries (disk : Disk) : List (String × Entry) :=
  match disk.place with
  | .folder map => map.entries
  | _ => []

def held? (disk : Disk) (name : String) : Option Entry := disk.entries.lookup name

/-- The folder is there. -/
def Present (disk : Disk) : Prop := ∃ map, disk.place = .folder map

/-- A folder with nothing in it. -/
def emptyFolder : Disk := ⟨.folder ⟨[], SortedMap.nil_sorted⟩, 0⟩

theorem emptyFolder_present : emptyFolder.Present := ⟨_, rfl⟩

theorem entries_sorted (disk : Disk) : disk.entries.Pairwise (·.1 < ·.1) := by
  unfold entries
  split
  · next map _ => exact map.sorted
  · exact .nil

theorem held?_eq_some_iff {disk : Disk} {name : String} {entry : Entry} :
    disk.held? name = some entry ↔ (name, entry) ∈ disk.entries :=
  SortedMap.lookup_eq_some_iff disk.entries_sorted

theorem held?_folder {disk : Disk} {map : SortedMap Entry} (place : disk.place = .folder map)
    (name : String) : disk.held? name = map.get? name := by
  simp only [held?, entries, place, SortedMap.get?]

theorem read?_eq (disk : Disk) (name : String) :
    disk.read? name = (disk.held? name).bind Entry.lines? := by
  cases place : disk.place with
  | folder map =>
    rw [held?_folder place]
    rcases found : map.get? name with _ | _ | _ <;> simp only [read?, place, found] <;> rfl
  | missing => rw [read?, held?, entries, place]; rfl
  | occupied => rw [read?, held?, entries, place]; rfl

theorem names_eq {disk : Disk} (present : disk.Present) :
    disk.names = .ok (disk.entries.map Prod.fst) := by
  obtain ⟨map, place⟩ := present
  simp only [names, entries, place, SortedMap.keys]

/-! ## Writing a line -/

theorem append_folder (map : SortedMap Entry) (fresh handle : Nat) (line : String) :
    append ⟨.folder map, fresh⟩ handle line =
      ⟨.folder (map.mapValues (Entry.written handle line)), fresh⟩ := by
  unfold append
  congr 3

theorem entries_append (disk : Disk) (handle : Nat) (line : String) :
    (disk.append handle line).entries =
      disk.entries.map fun (name, entry) => (name, entry.written handle line) := by
  obtain ⟨place, fresh⟩ := disk
  cases place with
  | folder map => rw [append_folder]; rfl
  | missing => rfl
  | occupied => rfl

theorem held?_append (disk : Disk) (handle : Nat) (line name : String) :
    (disk.append handle line).held? name =
      (disk.held? name).map (Entry.written handle line) := by
  rw [held?, entries_append]
  exact SortedMap.lookup_map_value _ _ _

@[simp] theorem fresh_append (disk : Disk) (handle : Nat) (line : String) :
    (disk.append handle line).fresh = disk.fresh := by
  unfold append
  split <;> rfl

theorem Present.append {disk : Disk} (present : disk.Present) (handle : Nat) (line : String) :
    (disk.append handle line).Present := by
  obtain ⟨place, fresh⟩ := disk
  obtain ⟨map, rfl⟩ := present
  exact ⟨_, congrArg Disk.place (append_folder map fresh handle line)⟩

/-! ## Opening a file -/

theorem entries_addFile {disk : Disk} (present : disk.Present) (name : String)
    (lines : List String) :
    (disk.addFile name lines).entries =
      SortedMap.insertEntry name (.file disk.fresh lines) disk.entries := by
  obtain ⟨map, place⟩ := present
  simp only [addFile, entries, place, SortedMap.insert]

theorem fresh_addFile {disk : Disk} (present : disk.Present) (name : String)
    (lines : List String) : (disk.addFile name lines).fresh = disk.fresh + 1 := by
  obtain ⟨map, place⟩ := present
  simp only [addFile, place]

theorem Present.addFile {disk : Disk} (present : disk.Present) (name : String)
    (lines : List String) : (disk.addFile name lines).Present := by
  obtain ⟨map, place⟩ := present
  exact ⟨map.insert name (.file disk.fresh lines), by simp only [Disk.addFile, place]⟩

theorem openAppend_folder {disk : Disk} {map : SortedMap Entry} (place : disk.place = .folder map)
    (name : String) :
    disk.openAppend name =
      match disk.held? name with
      | some (.file handle _) => .ok (handle, disk)
      | some .folder => .error .isADirectory
      | none => .ok (disk.fresh, disk.addFile name []) := by
  rw [held?_folder place]
  rcases found : map.get? name with _ | _ | _ <;> simp only [openAppend, place, found]

theorem openAppend_new {disk : Disk} {name : String} (present : disk.Present)
    (absent : disk.held? name = none) :
    disk.openAppend name = .ok (disk.fresh, disk.addFile name []) := by
  obtain ⟨map, place⟩ := present
  rw [openAppend_folder place, absent]

/-- **A file that could be opened** is there with the lines it had before, and no other name is
touched. -/
theorem openAppend_ok {disk opened : Disk} {name : String} {handle : Nat}
    (ok : disk.openAppend name = .ok (handle, opened)) :
    opened.Present ∧
    opened.held? name = some (.file handle ((disk.read? name).getD [])) ∧
    ∀ p : String → Bool, p name = false →
      opened.entries.filter (p ·.1) = disk.entries.filter (p ·.1) := by
  cases place : disk.place with
  | missing => simp [openAppend, place] at ok
  | occupied => simp [openAppend, place] at ok
  | folder map =>
    rw [openAppend_folder place] at ok
    rw [read?_eq]
    split at ok
    · next held lines found =>
      cases ok
      exact ⟨⟨map, place⟩, by rw [found]; rfl, fun _ _ => rfl⟩
    · cases ok
    · next absent =>
      cases ok
      have present : disk.Present := ⟨map, place⟩
      refine ⟨present.addFile name [], ?_, fun p other => ?_⟩
      · rw [absent, held?, entries_addFile present, SortedMap.lookup_insertEntry, if_pos rfl]
        rfl
      · rw [entries_addFile present]
        exact SortedMap.filter_insertEntry_other other _ _

/-! ## Removing files -/

/-- What stays when files are removed: all other names, and folders. -/
def stays (gone : List String) (entry : String × Entry) : Bool :=
  !(gone.contains entry.1 && entry.2.isFile)

theorem removeFile_held {disk : Disk} {name : String} {handle : Nat} {lines : List String}
    (held : disk.held? name = some (.file handle lines)) :
    (disk.removeFile name).entries = disk.entries.filter (·.1 ≠ name) := by
  cases place : disk.place with
  | folder map =>
    rw [held?_folder place] at held
    simp only [removeFile, entries, place, held, SortedMap.erase]
  | missing => simp [held?, entries, place] at held
  | occupied => simp [held?, entries, place] at held

theorem removeFile_absent {disk : Disk} {name : String}
    (absent : ∀ handle lines, disk.held? name ≠ some (.file handle lines)) :
    disk.removeFile name = disk := by
  unfold removeFile
  split
  · next map place =>
    rw [← held?_folder place]
    split
    · next handle lines held => exact absurd held (absent handle lines)
    · rfl
  · rfl

theorem entries_removeFile (disk : Disk) (name : String) :
    (disk.removeFile name).entries = disk.entries.filter (stays [name]) := by
  -- A name is there once, so what is listed under it is what `removeFile` looks at.
  have found : ∀ entry ∈ disk.entries, entry.1 = name → disk.held? name = some entry.2 :=
    fun entry member same => held?_eq_some_iff.mpr (same ▸ member)
  by_cases held : ∃ handle lines, disk.held? name = some (.file handle lines)
  · obtain ⟨handle, lines, held⟩ := held
    rw [removeFile_held held]
    refine List.filter_congr fun entry member => ?_
    by_cases same : entry.1 = name
    · have kind : entry.2 = .file handle lines :=
        Option.some.inj ((found entry member same).symm.trans held)
      simp [stays, same, kind, Entry.isFile]
    · simp [stays, same]
  · have absent : ∀ handle lines, disk.held? name ≠ some (.file handle lines) :=
      fun handle lines eq => held ⟨handle, lines, eq⟩
    rw [removeFile_absent absent, List.filter_eq_self.mpr fun entry member => ?_]
    by_cases same : entry.1 = name
    · cases kind : entry.2 with
      | file handle lines => exact absurd (kind ▸ found entry member same) (absent handle lines)
      | folder => simp [stays, kind, Entry.isFile]
    · simp [stays, same]

theorem fresh_removeFile (disk : Disk) (name : String) :
    (disk.removeFile name).fresh = disk.fresh := by
  unfold removeFile
  split
  · split <;> rfl
  · rfl

theorem Present.removeFile {disk : Disk} (present : disk.Present) (name : String) :
    (disk.removeFile name).Present := by
  unfold Disk.removeFile
  split
  · split
    · exact ⟨_, rfl⟩
    · exact present
  · exact present

/-- Removing one file after the other removes all of them, and nothing else. -/
theorem entries_foldl_removeFile (gone : List String) (disk : Disk) :
    (gone.foldl removeFile disk).entries = disk.entries.filter (stays gone) := by
  induction gone generalizing disk with
  | nil => exact (List.filter_eq_self.mpr fun _ _ => rfl).symm
  | cons name gone ih =>
    rw [List.foldl_cons, ih, entries_removeFile, List.filter_filter]
    refine List.filter_congr fun entry _ => ?_
    unfold stays
    cases entry.2.isFile <;> simp [Bool.and_comm]

/-! ## Pruning -/

/-- The folder after the telemetry files that are too many are removed. -/
def pruned (maxFiles : Nat) (disk : Disk) : Disk :=
  (Recorder.excess maxFiles (disk.entries.map Prod.fst)).foldl removeFile disk

theorem prune_eq (recorder : Recorder) {disk : Disk} (present : disk.Present) :
    recorder.prune disk = .ok (disk.pruned recorder.maxFiles) := by
  rw [Recorder.prune, names_eq present]
  rfl

theorem entries_pruned (maxFiles : Nat) (disk : Disk) :
    (disk.pruned maxFiles).entries =
      disk.entries.filter (stays (Recorder.excess maxFiles (disk.entries.map Prod.fst))) :=
  entries_foldl_removeFile _ _

theorem fresh_pruned (maxFiles : Nat) (disk : Disk) : (disk.pruned maxFiles).fresh = disk.fresh :=
  List.foldlRecOn (motive := fun left => left.fresh = disk.fresh) _ removeFile rfl
    fun left same name _ => (fresh_removeFile left name).trans same

theorem Present.pruned {disk : Disk} (present : disk.Present) (maxFiles : Nat) :
    (disk.pruned maxFiles).Present :=
  List.foldlRecOn _ Disk.removeFile present fun _ present name _ => present.removeFile name

theorem held?_pruned (disk : Disk) (maxFiles : Nat) (name : String) :
    (disk.pruned maxFiles).held? name = (disk.held? name).filter fun entry =>
      stays (Recorder.excess maxFiles (disk.entries.map Prod.fst)) (name, entry) := by
  rw [held?, entries_pruned]
  exact SortedMap.lookup_filter disk.entries_sorted _ name

/-- The telemetry files that have a later name. -/
def later (disk : Disk) (name : String) : List (String × Entry) :=
  disk.entries.filter (isLater name ·.1)

/-- **A telemetry file survives pruning** exactly if fewer than are kept have later names. -/
theorem held?_pruned_file {disk : Disk} {name : String} {handle : Nat} {lines : List String}
    (kind : isTelemetryName name = true) (held : disk.held? name = some (.file handle lines))
    (maxFiles : Nat) :
    (disk.pruned maxFiles).held? name =
      if (disk.later name).length < maxFiles then some (.file handle lines) else none := by
  have member : name ∈ disk.entries.map Prod.fst :=
    List.mem_map_of_mem (held?_eq_some_iff.mp held)
  have names_sorted : (disk.entries.map Prod.fst).Pairwise (· < ·) :=
    List.pairwise_map.mpr disk.entries_sorted
  have gone := mem_excess_iff names_sorted member kind maxFiles
  rw [List.filter_map, List.length_map] at gone
  change _ ↔ maxFiles ≤ (disk.later name).length at gone
  rw [held?_pruned, held, Option.filter_some]
  by_cases few : (disk.later name).length < maxFiles
  · have stay : name ∉ Recorder.excess maxFiles (disk.entries.map Prod.fst) :=
      fun early => absurd few (Nat.not_lt.mpr (gone.mp early))
    rw [if_pos few, if_pos (by simp [stays, stay])]
  · have go : name ∈ Recorder.excess maxFiles (disk.entries.map Prod.fst) :=
      gone.mpr (Nat.not_lt.mp few)
    rw [if_neg few, if_neg (by simp [stays, go, Entry.isFile])]

/-! ## Telemetry files and the other entries -/

def telemetry (disk : Disk) : List (String × Entry) := disk.entries.filter (isTelemetryName ·.1)

def others (disk : Disk) : List (String × Entry) := disk.entries.filter (!isTelemetryName ·.1)

/-- The telemetry files with their lines, in the order of their names. -/
def telemetryFiles (disk : Disk) : List (String × List String) :=
  disk.telemetry.filterMap fun (name, entry) => entry.lines?.map (name, ·)

theorem telemetryFiles_sorted (disk : Disk) :
    (disk.telemetryFiles.map Prod.fst).Pairwise (· < ·) := by
  refine List.pairwise_map.mpr (List.Pairwise.filterMap _ ?_ (disk.entries_sorted.filter _))
  rintro ⟨name, entry⟩ ⟨other, held⟩ lt _ left _ right
  obtain ⟨_, -, rfl⟩ := Option.map_eq_some_iff.mp left
  obtain ⟨_, -, rfl⟩ := Option.map_eq_some_iff.mp right
  exact lt

theorem held?_others (disk : Disk) {name : String} (kind : isTelemetryName name = false) :
    disk.held? name = disk.others.lookup name := by
  have all : (disk.held? name).filter (fun _ => !isTelemetryName name) = disk.held? name := by
    rw [kind]
    cases disk.held? name <;> rfl
  rw [others, SortedMap.lookup_filter disk.entries_sorted]
  exact all.symm

theorem telemetry_append (disk : Disk) (handle : Nat) (line : String) :
    (disk.append handle line).telemetry =
      disk.telemetry.map fun (name, entry) => (name, entry.written handle line) := by
  rw [telemetry, entries_append, List.filter_map]
  rfl

theorem others_append (disk : Disk) (handle : Nat) (line : String) :
    (disk.append handle line).others =
      disk.others.map fun (name, entry) => (name, entry.written handle line) := by
  rw [others, entries_append, List.filter_map]
  rfl

theorem others_addFile {disk : Disk} {name : String} (present : disk.Present)
    (kind : isTelemetryName name = true) (lines : List String) :
    (disk.addFile name lines).others = disk.others := by
  rw [others, entries_addFile present]
  exact SortedMap.filter_insertEntry_other (p := fun name => !isTelemetryName name)
    (by rw [kind]; rfl) _ _

theorem telemetry_addFile_last {disk : Disk} {name : String} (present : disk.Present)
    (kind : isTelemetryName name = true) (behind : ∀ entry ∈ disk.telemetry, entry.1 < name)
    (lines : List String) :
    (disk.addFile name lines).telemetry =
      disk.telemetry ++ [(name, .file disk.fresh lines)] := by
  rw [telemetry, entries_addFile present]
  exact SortedMap.filter_insertEntry_last kind _ disk.entries_sorted
    fun entry member kind => behind entry (List.mem_filter.mpr ⟨member, kind⟩)

theorem others_pruned (disk : Disk) (maxFiles : Nat) :
    (disk.pruned maxFiles).others = disk.others := by
  rw [others, entries_pruned, others, List.filter_filter]
  refine List.filter_congr fun entry _ => ?_
  cases kind : isTelemetryName entry.1 with
  | true => rfl
  | false =>
    have stay : entry.1 ∉ Recorder.excess maxFiles (disk.entries.map Prod.fst) := by
      intro gone
      have telemetry := (List.mem_filter.mp (List.mem_of_mem_take gone)).2
      exact absurd (kind.symm.trans telemetry) (by decide)
    simp [stays, stay]

theorem filter_not_mem_front {front back : List (String × Entry)}
    (nodup : ((front ++ back).map Prod.fst).Nodup) :
    (front ++ back).filter (fun entry => !(front.map Prod.fst).contains entry.1) = back := by
  rw [List.map_append, List.nodup_append] at nodup
  obtain ⟨-, -, apart⟩ := nodup
  have front_goes : ∀ entry ∈ front, ¬ (!(front.map Prod.fst).contains entry.1) = true :=
    fun entry member => by simpa using ⟨entry.2, member⟩
  have back_stays : ∀ entry ∈ back, (!(front.map Prod.fst).contains entry.1) = true := by
    intro entry member
    have new : entry.1 ∉ front.map Prod.fst :=
      fun old => apart entry.1 old entry.1 (List.mem_map_of_mem member) rfl
    simpa using new
  rw [List.filter_append, List.filter_eq_nil_iff.mpr front_goes, List.nil_append,
    List.filter_eq_self.mpr back_stays]

/-- **Pruning leaves the last telemetry files** by name. -/
theorem telemetry_pruned {disk : Disk} (files : ∀ entry ∈ disk.telemetry, entry.2.isFile = true)
    (maxFiles : Nat) :
    (disk.pruned maxFiles).telemetry =
      disk.telemetry.drop (disk.telemetry.length - maxFiles) := by
  have names : (disk.entries.map Prod.fst).filter isTelemetryName =
      disk.telemetry.map Prod.fst := List.filter_map
  have gone : Recorder.excess maxFiles (disk.entries.map Prod.fst) =
      (disk.telemetry.take (disk.telemetry.length - maxFiles)).map Prod.fst := by
    rw [Recorder.excess, names, List.length_map, List.map_take]
  have left : (disk.pruned maxFiles).telemetry = disk.telemetry.filter fun entry =>
      !(Recorder.excess maxFiles (disk.entries.map Prod.fst)).contains entry.1 := by
    rw [telemetry, entries_pruned, telemetry, List.filter_filter, List.filter_filter]
    refine List.filter_congr fun entry member => ?_
    cases kind : isTelemetryName entry.1 with
    | false => simp
    | true =>
      have file := files entry (List.mem_filter.mpr ⟨member, kind⟩)
      simp [stays, file]
  have nodup : (disk.telemetry.map Prod.fst).Nodup :=
    SortedMap.nodup_of_sorted (disk.entries_sorted.filter _)
  have parts := List.take_append_drop (disk.telemetry.length - maxFiles) disk.telemetry
  rw [← parts] at nodup
  have last := filter_not_mem_front nodup
  rw [parts] at last
  rw [left, gone, last]

/-! ## Handles -/

/-- No file in the folder has a handle that was not given out yet. -/
def Sound (disk : Disk) : Prop :=
  ∀ name handle lines, disk.held? name = some (.file handle lines) → handle < disk.fresh

theorem emptyFolder_sound : emptyFolder.Sound := fun _ _ _ found => by cases found

theorem Sound.addFile {disk : Disk} (sound : disk.Sound) (present : disk.Present) (name : String)
    (lines : List String) : (disk.addFile name lines).Sound := by
  intro other handle held found
  rw [held?, entries_addFile present, SortedMap.lookup_insertEntry] at found
  rw [fresh_addFile present]
  split at found
  · cases found
    exact Nat.lt_succ_self _
  · exact Nat.lt_succ_of_lt (sound other handle held found)

theorem Sound.append {disk : Disk} (sound : disk.Sound) (handle : Nat) (line : String) :
    (disk.append handle line).Sound := by
  intro name held lines found
  rw [held?_append, Option.map_eq_some_iff] at found
  obtain ⟨entry, found, eq⟩ := found
  rw [fresh_append]
  cases entry with
  | file old before =>
    cases eq
    exact sound name held before found
  | folder => cases eq

theorem Sound.pruned {disk : Disk} (sound : disk.Sound) (maxFiles : Nat) :
    (disk.pruned maxFiles).Sound := by
  intro name handle lines found
  rw [held?_pruned, Option.filter_eq_some_iff] at found
  rw [fresh_pruned]
  exact sound name handle lines found.1

end Disk

end UpsMonitor.Telemetry
