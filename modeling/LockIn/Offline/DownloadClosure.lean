import LockIn.Offline.DownloadSteps

/-!
# Downloads of everything that is needed

A download that ends without an error has stored everything the item needs, apart from the PDFs to
which access is known to be denied, which are left as they are.
-/

namespace LockIn.OfflineDownloads

open List Transaction
open Whitespace (Text)

variable {before after : Store} {browser : Browser} {user : Text} {item other : OfflineItem}
  {manifest : Option (List OfflineItem)} {metadata : Option Metadata} {graph : List OfflineItem}

def KeptApart (user : Text) (graph : List OfflineItem) : Prop :=
  graph.Pairwise fun earlier later => erases user later earlier = false

def plainSegment (segment : Text) : Prop := segment ≠ parent ∧ segment ≠ here

theorem resolved_plain {path : List Text} (h : ∀ segment ∈ path, plainSegment segment) :
    resolved path = path := by
  have hfold (done rest : List Text) (hrest : ∀ segment ∈ rest, plainSegment segment) :
      rest.foldl enter done = done ++ rest := by
    induction rest generalizing done with
    | nil => exact (append_nil done).symm
    | cons segment rest ih =>
      obtain ⟨hplain, hrest⟩ := forall_mem_cons.1 hrest
      rw [foldl_cons, enter, if_neg hplain.1, if_neg hplain.2, ih _ hrest, append_assoc]
      rfl
  have hlast : ¬(path.getLast? = some parent ∨ path.getLast? = some here) := by
    rintro (hend | hend)
    · exact (h _ (mem_of_getLast? hend)).1 rfl
    · exact (h _ (mem_of_getLast? hend)).2 rfl
  rw [resolved, hfold [] path h, if_neg hlast, append_nil, nil_append]

theorem prefix_or_prefix_of_mark {mark : Char} {first second rest : Text}
    (h : first ++ [mark] <+: second ++ mark :: rest) :
    first = second ∨ first ++ [mark] <+: second ∨ second ++ [mark] <+: first := by
  have hmark : second ++ [mark] <+: second ++ mark :: rest := ⟨rest, by simp⟩
  rcases prefix_or_prefix_of_prefix h hmark with hfirst | hsecond
  · rcases prefix_concat_iff.1 hfirst with heq | hinside
    · exact .inl (append_cancel_right heq)
    · exact .inr (.inl hinside)
  · rcases prefix_concat_iff.1 hsecond with heq | hinside
    · exact .inl (append_cancel_right heq).symm
    · exact .inr (.inr hinside)

/-- Nothing is taken for an older version of another item where no id continues another with a colon,
and no segment of a path is `.` or `..`. -/
theorem keptApart (hids : (graph.map (·.id)).Nodup) (huser : plainSegment user)
    (hplain : ∀ entry ∈ graph, plainSegment entry.id ∧ plainSegment (entry.checksum.getD []))
    (hcolon : ∀ first ∈ graph, ∀ second ∈ graph, ¬first.id ++ [':'] <+: second.id) :
    KeptApart user graph := by
  have hurl {earlier later : OfflineItem} (hearlier : earlier ∈ graph) (hlater : later ∈ graph)
      {checksum : Text} (hchecksum : plainSegment checksum)
      (hbelongs : belongsToItem (cacheKey user earlier.id checksum) user later.id = true) :
      later.id = earlier.id := by
    have hroot : plainSegment "__lockin_offline__".toList := by
      constructor <;> decide
    have hkey {item : OfflineItem} (hitem : item ∈ graph) {tail : List Text}
        (htail : ∀ segment ∈ tail, plainSegment segment) :
        resolved (["__lockin_offline__".toList, user, item.id] ++ tail) =
          ["__lockin_offline__".toList, user, item.id] ++ tail := by
      refine resolved_plain fun segment hsegment => ?_
      simp only [cons_append, nil_append, mem_cons] at hsegment
      rcases hsegment with rfl | rfl | rfl | hin
      exacts [hroot, huser, (hplain item hitem).1, htail segment hin]
    have htail : ∀ segment ∈ (if checksum ≠ [] then [checksum] else []), plainSegment segment := by
      intro segment hsegment
      split at hsegment
      · rw [mem_singleton.1 hsegment]
        exact hchecksum
      · cases hsegment
    unfold belongsToItem cacheKey at hbelongs
    rw [hkey hearlier htail, hkey hlater (by simp)] at hbelongs
    simpa using hbelongs
  have hne : graph.Pairwise fun earlier later => earlier.id ≠ later.id :=
    pairwise_map.1 hids
  refine hne.imp_of_mem fun {earlier later} hearlier hlater hdiffer => ?_
  unfold erases
  rw [Bool.eq_false_iff]
  split_ifs with hjson
  · intro herased
    obtain ⟨_, hstart, _⟩ := of_decide_eq_true herased
    have hcolons : ":".toList = [':'] := rfl
    unfold contentKey contentPrefix at hstart
    rw [hcolons, append_assoc, append_assoc, append_assoc,
      prefix_append_right_inj] at hstart
    rcases prefix_or_prefix_of_mark hstart with heq | hcontinues | hcontinues
    · exact hdiffer heq.symm
    · exact hcolon later hlater earlier hearlier hcontinues
    · exact hcolon earlier hearlier later hlater hcontinues
  · have hempty : plainSegment [] := by constructor <;> decide
    intro herased
    obtain ⟨_, url, hmem, hbelongs, _⟩ := of_decide_eq_true herased
    rcases mem_pair.1 hmem with rfl | rfl
    · exact hdiffer (hurl hearlier hlater (hplain earlier hearlier).2 hbelongs).symm
    · exact hdiffer (@hurl _ _ hearlier hlater [] hempty hbelongs).symm

structure AllDownloaded (user : Text) (graph : List OfflineItem) (before after : Store) : Prop where
  manifest : after.manifest = before.manifest
  metadata : ∀ id ∉ graph.map (·.id), readDownloadMetadata after id = readDownloadMetadata before id
  kept : ∀ other : OfflineItem, other.id ∉ graph.map (·.id) →
    (∀ entry ∈ graph, erases user entry other = false) →
    isOwnContentStored before user other = true → isOwnContentStored after user other = true
  denied : ∀ entry ∈ graph, deniedPdf before entry = true →
    readDownloadMetadata after entry.id = readDownloadMetadata before entry.id
  stored : ∀ entry ∈ graph, deniedPdf before entry = false →
    isOwnContentStored after user entry = true

theorem deniedPdf_congr
    (h : readDownloadMetadata after item.id = readDownloadMetadata before item.id) :
    deniedPdf after item = deniedPdf before item := by
  unfold deniedPdf deniedAt
  rw [h]

/-- A first part and then the others. -/
theorem Downloaded.then {middle : Store} (hfirst : Downloaded user item before middle)
    (hrest : AllDownloaded user graph middle after) (hid : item.id ∉ graph.map (·.id))
    (hapart : ∀ entry ∈ graph, erases user entry item = false) :
    AllDownloaded user (item :: graph) before after where
  manifest := hrest.manifest.trans hfirst.manifest
  metadata id hnot := by
    rw [map_cons, mem_cons, not_or] at hnot
    rw [hrest.metadata id hnot.2, hfirst.metadata id hnot.1]
  kept other hnot herases hstored := by
    rw [map_cons, mem_cons, not_or] at hnot
    refine hrest.kept other hnot.2 (fun entry hentry => herases entry (mem_cons_of_mem _ hentry)) ?_
    exact hfirst.kept other hnot.1 (herases item mem_cons_self) hstored
  denied entry hentry hdenied := by
    rcases mem_cons.1 hentry with rfl | hin
    · rw [hrest.metadata _ hid, hfirst.denied hdenied]
    · have hsame := hfirst.metadata entry.id fun heq => hid (heq ▸ mem_map_of_mem hin)
      rw [hrest.denied entry hin (by rw [deniedPdf_congr hsame, hdenied]), hsame]
  stored entry hentry hdenied := by
    rcases mem_cons.1 hentry with rfl | hin
    · exact hrest.kept entry hid hapart (hfirst.stored hdenied)
    · have hsame := hfirst.metadata entry.id fun heq => hid (heq ▸ mem_map_of_mem hin)
      exact hrest.stored entry hin (by rw [deniedPdf_congr hsame, hdenied])

theorem downloadAll_ends (hids : (graph.map (·.id)).Nodup) (hapart : KeptApart user graph) :
    Ends (downloadAll browser user metadata graph) before
      (fun _ after => AllDownloaded user graph before after) fun _ _ => True := by
  induction graph generalizing metadata before with
  | nil =>
    refine ends_answer ⟨rfl, fun _ _ => rfl, fun _ _ _ hstored => hstored, ?_, ?_⟩
    · intro entry hentry
      cases hentry
    · intro entry hentry
      cases hentry
  | cons entry rest ih =>
    rw [map_cons, nodup_cons] at hids
    obtain ⟨hfirst, hlater⟩ := pairwise_cons.1 hapart
    refine ends_andThen (downloadOne_ends.imp (fun found middle hmiddle => ?_) fun _ _ _ => trivial)
    exact (ih hids.2 hlater).imp (fun _ after hrest => hmiddle.then hrest hids.1 hfirst)
      fun _ _ _ => trivial

theorem downloadOfflineItem_ends :
    Ends (downloadOfflineItem browser user item manifest) before
      (fun _ after => ∃ graph, dependencyGraph (itemsFor before manifest item) item = .ok graph ∧
        (KeptApart user graph → AllDownloaded user graph before after)) fun _ _ => True := by
  refine ends_andThen (ends_orThrow (ends_andThen (ends_decided (fun graph hgraph => ?_)
    fun _ _ => trivial)))
  constructor
  · intro found hfound
    refine ⟨graph, hgraph, fun hapart => ?_⟩
    exact (downloadAll_ends (dependencyGraph_ok hgraph).1 hapart).ok found hfound
  · exact fun _ _ => trivial

theorem offlineItemState_downloaded (h : dependencyGraph (itemsFor after manifest item) item = .ok graph) :
    offlineItemState after user item manifest = .downloaded ↔
      ∀ entry ∈ graph, isOwnContentStored after user entry = true := by
  unfold offlineItemState
  rw [h]
  dsimp only
  rw [← all_eq_true]
  split_ifs with hall hmetadata hsome
  · simp [hall]
  · simp [hall]
  · simp [hall]
  · simp [hall]

theorem not_stored_of_denied (h : deniedPdf after item = true) :
    isOwnContentStored after user item = false := by
  rw [Bool.eq_false_iff]
  intro hstored
  have hknown := (isOwnContentStored_iff.1 hstored).1
  unfold deniedPdf deniedAt at h
  unfold isKnown at hknown
  cases hmetadata : readDownloadMetadata after item.id with
  | none => simp [hmetadata] at h
  | some existing =>
    rw [hmetadata] at h hknown
    simp only [Option.any_some, decide_eq_true_eq, not_or] at h hknown
    exact hknown.1 h.2.1

theorem state_after_download (hgraph : dependencyGraph (itemsFor before manifest item) item = .ok graph)
    (hall : AllDownloaded user graph before after) :
    offlineItemState after user item manifest = .downloaded ↔
      ∀ entry ∈ graph, deniedPdf before entry = false := by
  have hitems : itemsFor after manifest item = itemsFor before manifest item := by
    unfold itemsFor readOfflineManifest
    rw [hall.manifest]
  rw [offlineItemState_downloaded (hitems ▸ hgraph)]
  refine forall₂_congr fun entry hentry => ?_
  constructor
  · intro hstored
    rw [Bool.eq_false_iff]
    intro hdenied
    have hlater := deniedPdf_congr (hall.denied entry hentry hdenied)
    rw [hdenied] at hlater
    rw [not_stored_of_denied hlater] at hstored
    cases hstored
  · exact hall.stored entry hentry

/-- The graph is found exactly where nothing is missing or circular, and it is everything needed
with what is needed first.  A download that ends has everything stored, where no part takes an
earlier one for its own and no PDF is known to be denied. -/
theorem download_closure :
    (∀ items item,
      (∀ reason, dependencyGraph items item = .error reason →
        reason = unavailablePart ∨ reason = circular) ∧
      ((∃ reason, dependencyGraph items item = .error reason) ↔
        Closures.Missing (itemGraph items) item ∨ Closures.Cyclic (itemGraph items) item) ∧
      ∀ graph, dependencyGraph items item = .ok graph →
        (graph.map (·.id)).Nodup ∧ (∀ entry, entry ∈ graph ↔ DependsOn items item entry) ∧
          ∀ front entry back, graph = front ++ entry :: back →
            ∀ id ∈ entry.dependencies, ∃ other ∈ front, dependency items id = some other) ∧
    ∀ browser user item manifest metadata before after,
      downloadOfflineItem browser user item manifest before = (.ok metadata, after) →
        ∃ graph, dependencyGraph (itemsFor before manifest item) item = .ok graph ∧
          (KeptApart user graph →
            (offlineItemState after user item manifest = .downloaded ↔
              ∀ entry ∈ graph, deniedPdf before entry = false)) := by
  refine ⟨fun items item => ⟨fun reason => dependencyGraph_message, dependencyGraph_error,
    fun graph => dependencyGraph_ok⟩, ?_⟩
  intro browser user item manifest metadata before after h
  have hok : (downloadOfflineItem browser user item manifest before).1 = .ok metadata :=
    congrArg Prod.fst h
  obtain ⟨graph, hgraph, hall⟩ := downloadOfflineItem_ends.ok metadata hok
  rw [h] at hall
  exact ⟨graph, hgraph, fun hapart => state_after_download hgraph (hall hapart)⟩

def sheet : OfflineItem where
  id := "7:sheet".toList
  type := "sheet".toList
  available := true
  version := some (.number 1)
  checksum := some "ab".toList
  size := some 2
  downloadUrl := some "/api/v1/files/7/view".toList
  dependencies := []
  sheetId := some "7".toList
  edition := some "university".toList

def exam : OfflineItem where
  id := "questions:7:exam".toList
  type := "questions".toList
  available := true
  version := some (.digest "c".toList)
  checksum := some "c".toList
  size := none
  downloadUrl := some "/api/v1/offline/questions/7/?source=exam".toList
  dependencies := ["7:sheet".toList]
  sheetId := some "7".toList
  edition := none

/-- A server that answers every request, and nothing that interrupts. -/
def online : Browser where
  sha256 _ := "ab".toList
  propertyKey _ := []
  opening := none
  during _ :=
    { interrupted := fun _ => none
      estimate := none
      request := fun _ => .ok (.obj [("content_version", .str "c".toList), ("results", .arr []),
        ("count", .int 0), ("answer_keys", .obj [])])
      fetch := fun _ => .ok ⟨true, [[0x25], [0x50]]⟩ }

def nothingKept : Store := ⟨none, [], [], []⟩

theorem download_closure_exam :
    offlineItemState (downloadOfflineItem online "5".toList exam (some [sheet, exam]) nothingKept).2
      "5".toList exam (some [sheet, exam]) = .downloaded := by
  obtain ⟨graph, hgraph, hstate⟩ := download_closure.2 online "5".toList exam (some [sheet, exam])
    (some ⟨exam, false⟩) nothingKept _ rfl
  obtain rfl : [sheet, exam] = graph := Except.ok.inj hgraph
  refine (hstate ?_).2 ?_
  · exact List.Pairwise.cons (by decide) (pairwise_singleton _ _)
  · decide

def bank : OfflineItem :=
  { exam with id := "questions:7".toList, dependencies := ["questions:7:exam".toList] }

def lockedSheet : Store := { nothingKept with downloads := [(sheet.id, ⟨sheet, true⟩)] }

/-- A download ends without an error and the item is not there: its PDF is locked, or the last part
has removed an earlier one. -/
theorem finished_not_downloaded :
    ((downloadOfflineItem online "5".toList sheet (some [sheet]) lockedSheet).1 = .ok none ∧
      offlineItemState (downloadOfflineItem online "5".toList sheet (some [sheet]) lockedSheet).2
        "5".toList sheet (some [sheet]) = .update) ∧
    (downloadOfflineItem online "5".toList bank (some [sheet, exam, bank]) nothingKept).1 =
        .ok (some ⟨bank, false⟩) ∧
      offlineItemState
        (downloadOfflineItem online "5".toList bank (some [sheet, exam, bank]) nothingKept).2
        "5".toList bank (some [sheet, exam, bank]) = .update := by
  refine ⟨⟨?_, ?_⟩, ?_, ?_⟩
  · rfl
  · rfl
  · rfl
  · rfl

end LockIn.OfflineDownloads
