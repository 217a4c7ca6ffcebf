import LockIn.Offline.Downloads

/-!
# What a download leaves

Downloading one item leaves it stored, unless access to this very file is known to be denied, and
touches of the others only what its cleaning up takes for its own.
-/

namespace LockIn.OfflineDownloads

open Json (member truthy items?)
open List
open OfflineStudy (validActiveStudyBundle)
open Transaction
open Whitespace (Text)

variable {store before after : Store} {browser : Browser} {conditions : Conditions} {user : Text}
  {item other : OfflineItem} {bundle : Json} {blob : List UInt8}

def deniedPdf (store : Store) (item : OfflineItem) : Bool :=
  ¬isJsonType item.type ∧ deniedAt store item

def erases (user : Text) (item other : OfflineItem) : Bool :=
  if isJsonType item.type then
    isJsonType other.type ∧ contentPrefix item.id <+: contentKey other ∧
      contentKey other ≠ contentKey item
  else
    ¬isJsonType other.type ∧ ∃ url ∈ [other.cacheKey user, cacheKey user other.id []],
      belongsToItem url user item.id ∧ url ≠ item.cacheKey user

structure Downloaded (user : Text) (item : OfflineItem) (before after : Store) : Prop where
  manifest : after.manifest = before.manifest
  metadata : ∀ id ≠ item.id, readDownloadMetadata after id = readDownloadMetadata before id
  kept : ∀ other, other.id ≠ item.id → erases user item other = false →
    isOwnContentStored before user other = true → isOwnContentStored after user other = true
  denied : deniedPdf before item = true →
    readDownloadMetadata after item.id = readDownloadMetadata before item.id
  stored : deniedPdf before item = false → isOwnContentStored after user item = true

def hasContent (store : Store) (user : Text) (item : OfflineItem) : Bool :=
  if isJsonType item.type then truthy (Dictionary.get store.contents (contentKey item))
  else (cachedFile store user item).isSome

def isKnown (store : Store) (item : OfflineItem) : Bool :=
  let metadata := readDownloadMetadata store item.id
  ¬(metadata.any (·.blocked) ∨ metadata.bind (·.item.checksum) ≠ item.checksum ∨
    metadata.bind (·.item.version) ≠ item.version)

theorem isOwnContentStored_iff : isOwnContentStored store user item = true ↔
    isKnown store item = true ∧ hasContent store user item = true := by
  unfold isOwnContentStored isKnown hasContent
  simp only [decide_not, Bool.not_eq_true', decide_eq_false_iff_not]
  split_ifs with hknown <;> simp [hknown]

theorem isKnown_congr
    (h : readDownloadMetadata after item.id = readDownloadMetadata before item.id) :
    isKnown after item = isKnown before item := by
  unfold isKnown
  rw [h]

theorem isKnown_of_metadata (h : readDownloadMetadata store item.id = some ⟨item, false⟩) :
    isKnown store item = true := by
  unfold isKnown
  rw [h]
  simp

theorem readDownloadMetadata_set {id : Text} {metadata : Metadata}
    (h : after.downloads = Dictionary.set before.downloads item.id metadata) :
    readDownloadMetadata after id =
      if id = item.id then some metadata else readDownloadMetadata before id := by
  unfold readDownloadMetadata
  rw [h, Dictionary.get_set]

theorem ends_orThrow {interruption : Option String} {answered : Unit → Store → Prop}
    (h : answered () store) :
    Ends (orThrow interruption) store answered fun _ _ => True := by
  cases interruption with
  | none => exact ends_answer h
  | some reason => exact ends_refuse trivial

theorem ends_throw {α : Type} {reason : String} {answered : α → Store → Prop} :
    Ends (refuse reason : Action α) store answered fun _ _ => True :=
  ends_refuse trivial

structure BundleStored (item : OfflineItem) (bundle : Json) (before after : Store) : Prop where
  manifest : after.manifest = before.manifest
  files : after.files = before.files
  downloads : after.downloads = Dictionary.set before.downloads item.id ⟨item, false⟩
  own : Dictionary.get after.contents (contentKey item) = some bundle
  others : ∀ key, key ≠ contentKey item → ¬ contentPrefix item.id <+: key →
    Dictionary.get after.contents key = Dictionary.get before.contents key

theorem storeJsonContent_ends :
    Ends (storeJsonContent conditions item bundle) store
      (fun _ after => BundleStored item bundle store after) fun _ _ => True := by
  refine ends_andThen (ends_orThrow ?_)
  refine ends_andThen (ends_write ?_)
  refine ends_andThen (ends_orThrow ?_)
  refine ends_andThen (ends_decided (fun storedKeys _ => ?_) fun _ _ => trivial)
  refine ends_andThen ((ends_forEach_invariant (I := BundleStored item bundle store)
    (fun key state _ hstate => ?_) ?_).imp (fun _ _ hkept => ends_answer hkept) fun (_ : String) (_ : Store) (_ : True) => trivial)
  · split_ifs with hold
    · refine ends_andThen (ends_orThrow (ends_write ?_))
      obtain ⟨hstart, hne⟩ := hold
      rw [ isPrefixOf_iff_prefix] at hstart
      refine ⟨hstate.manifest, hstate.files, hstate.downloads, ?_, fun other hother hnot => ?_⟩
      · rw [Dictionary.get_delete, if_neg (Ne.symm hne)]
        exact hstate.own
      · have hkey : other ≠ key := fun heq => hnot (heq ▸ hstart)
        rw [Dictionary.get_delete, if_neg hkey]
        exact hstate.others other hother hnot
    · exact ends_answer hstate
  · refine ⟨rfl, rfl, rfl, ?_, fun key hkey _ => ?_⟩
    · rw [Dictionary.get_set, if_pos rfl]
    · rw [Dictionary.get_set, if_neg hkey]

theorem BundleStored.downloaded (h : BundleStored item bundle before after)
    (hjson : isJsonType item.type = true) (htruthy : truthy (some bundle) = true) :
    Downloaded user item before after where
  manifest := h.manifest
  metadata id hid := by rw [readDownloadMetadata_set h.downloads, if_neg hid]
  kept other hid herases hstored := by
    obtain ⟨hknown, hcontent⟩ := isOwnContentStored_iff.1 hstored
    have hmetadata : readDownloadMetadata after other.id = readDownloadMetadata before other.id := by
      rw [readDownloadMetadata_set h.downloads, if_neg hid]
    refine isOwnContentStored_iff.2 ⟨by rw [isKnown_congr hmetadata, hknown], ?_⟩
    unfold hasContent at hcontent ⊢
    split_ifs at hcontent ⊢ with htype
    · by_cases hkey : contentKey other = contentKey item
      · rw [hkey, h.own]
        exact htruthy
      · have hapart : ¬ contentPrefix item.id <+: contentKey other := by
          intro hstart
          simp [erases, hjson, htype, hstart, hkey] at herases
        rw [h.others _ hkey hapart]
        exact hcontent
    · unfold cachedFile at hcontent ⊢
      rw [h.files]
      exact hcontent
  denied hdenied := by simp [deniedPdf, hjson] at hdenied
  stored _ := by
    refine isOwnContentStored_iff.2 ⟨isKnown_of_metadata ?_, ?_⟩
    · rw [readDownloadMetadata_set h.downloads, if_pos rfl]
    · rw [hasContent, if_pos hjson, h.own]
      exact htruthy

theorem completeQuestions_truthy (h : completeQuestions browser bundle item = true) :
    truthy (some bundle) = true := by
  cases bundle with
  | obj fields => rfl
  | arr items => rfl
  | _ => simp [completeQuestions, member, items?] at h

theorem validActiveStudyBundle_truthy {described : Option Json}
    (h : validActiveStudyBundle (some bundle) described = true) : truthy (some bundle) = true := by
  unfold validActiveStudyBundle at h
  simp only [Bool.and_eq_true] at h
  exact h.1.1.1.1.1.1.1.1.1

variable {url : Text}

theorem downloadJson_ends (hjson : isJsonType item.type = true) :
    Ends (downloadJson browser item url) store
      (fun _ after => Downloaded user item store after) fun _ _ => True := by
  have hstore (bundle : Json) (htruthy : truthy (some bundle) = true) :
      Ends (storeJsonContent (browser.during item) item bundle) store
        (fun _ after => Downloaded user item store after) fun _ _ => True :=
    storeJsonContent_ends.imp (fun _ _ h => h.downloaded hjson htruthy) fun _ _ _ => trivial
  refine ends_andThen (ends_orThrow ?_)
  split_ifs with htype hurl hurl
  · refine ends_andThen (ends_decided (fun bundle _ => ?_) fun _ _ => trivial)
    split_ifs with hcomplete
    · exact hstore bundle (completeQuestions_truthy hcomplete)
    · exact ends_throw
  · exact ends_throw
  · refine ends_andThen (ends_decided (fun bundle _ => ?_) fun _ _ => trivial)
    split_ifs with hvalid
    · have htruthy := validActiveStudyBundle_truthy hvalid
      exact ends_andThen ((hstore bundle htruthy).imp
        (fun metadata after hdone => ends_andThen (ends_orThrow (ends_answer hdone)))
        fun _ _ _ => trivial)
    · exact ends_throw
  · exact ends_throw

structure FileStored (user : Text) (item : OfflineItem) (before after : Store) : Prop where
  manifest : after.manifest = before.manifest
  contents : after.contents = before.contents
  downloads : after.downloads = Dictionary.set before.downloads item.id ⟨item, false⟩
  own : (Dictionary.get after.files (item.cacheKey user)).isSome = true
  others : ∀ url, url ≠ item.cacheKey user → belongsToItem url user item.id = false →
    Dictionary.get after.files url = Dictionary.get before.files url

theorem storePdfBlob_ends :
    Ends (storePdfBlob conditions user item blob) store
      (fun _ after => if deniedAt store item = true then after = store
        else FileStored user item store after) fun _ _ => True := by
  refine ends_andThen (ends_orThrow ?_)
  refine ends_andThen (ends_decided (fun denied hdenied => ?_) fun _ _ => trivial)
  obtain rfl : deniedAt store item = denied := Except.ok.inj hdenied
  split_ifs with hdenied
  · exact ends_answer rfl
  · refine ends_andThen (ends_orThrow (ends_andThen (ends_orThrow (ends_andThen (ends_write ?_)))))
    cases conditions.interrupted .recording with
    | some reason => exact ends_andThen (ends_write ends_throw)
    | none =>
      refine ends_andThen (ends_write (ends_andThen (ends_orThrow ?_)))
      refine ends_andThen (ends_decided (fun urls _ => ?_) fun _ _ => trivial)
      refine ends_andThen ((ends_forEach_invariant (I := FileStored user item store)
        (fun url state _ hstate => ?_) ?_).imp (fun _ _ hkept => ends_answer hkept)
          fun (_ : String) (_ : Store) (_ : True) => trivial)
      · split_ifs with hold
        · refine ends_andThen (ends_orThrow (ends_write ?_))
          obtain ⟨hbelongs, hne⟩ := hold
          refine ⟨hstate.manifest, hstate.contents, hstate.downloads, ?_,
            fun other hother hnot => ?_⟩
          · rw [Dictionary.get_delete, if_neg (Ne.symm hne)]
            exact hstate.own
          · have hurl : other ≠ url := by
              rintro rfl
              rw [hbelongs] at hnot
              cases hnot
            rw [Dictionary.get_delete, if_neg hurl]
            exact hstate.others other hother hnot
        · exact ends_answer hstate
      · refine ⟨rfl, rfl, rfl, ?_, fun url hurl _ => ?_⟩
        · rw [Dictionary.get_set, if_pos rfl]
          rfl
        · rw [Dictionary.get_set, if_neg hurl]

theorem FileStored.get_isSome (h : FileStored user item before after) {url : List Text}
    (hurl : ¬(belongsToItem url user item.id = true ∧ url ≠ item.cacheKey user))
    (hfile : (Dictionary.get before.files url).isSome = true) :
    (Dictionary.get after.files url).isSome = true := by
  by_cases hkey : url = item.cacheKey user
  · rw [hkey]
    exact h.own
  · have hapart : belongsToItem url user item.id = false := by
      rw [Bool.eq_false_iff]
      exact fun hbelongs => hurl ⟨hbelongs, hkey⟩
    rw [h.others url hkey hapart]
    exact hfile

theorem FileStored.downloaded (h : FileStored user item before after)
    (hjson : isJsonType item.type = false) (hdenied : deniedAt before item = false) :
    Downloaded user item before after where
  manifest := h.manifest
  metadata id hid := by rw [readDownloadMetadata_set h.downloads, if_neg hid]
  kept other hid herases hstored := by
    obtain ⟨hknown, hcontent⟩ := isOwnContentStored_iff.1 hstored
    have hmetadata : readDownloadMetadata after other.id = readDownloadMetadata before other.id := by
      rw [readDownloadMetadata_set h.downloads, if_neg hid]
    refine isOwnContentStored_iff.2 ⟨by rw [isKnown_congr hmetadata, hknown], ?_⟩
    unfold hasContent at hcontent ⊢
    split_ifs at hcontent ⊢ with htype
    · rw [h.contents]
      exact hcontent
    · have hurls : ∀ url ∈ [other.cacheKey user, cacheKey user other.id []],
          ¬(belongsToItem url user item.id = true ∧ url ≠ item.cacheKey user) := by
        intro url hurl hboth
        have : erases user item other = true := by
          rw [erases, if_neg (by simp [hjson])]
          simp only [decide_eq_true_eq]
          exact ⟨htype, url, hurl, hboth⟩
        rw [herases] at this
        cases this
      unfold cachedFile at hcontent ⊢
      rw [Option.isSome_or, Bool.or_eq_true] at hcontent ⊢
      exact hcontent.imp (h.get_isSome (hurls _ mem_cons_self))
        (h.get_isSome (hurls _ (mem_cons_of_mem _ mem_cons_self)))
  denied hpdf := by simp [deniedPdf, hdenied] at hpdf
  stored _ := by
    refine isOwnContentStored_iff.2 ⟨isKnown_of_metadata ?_, ?_⟩
    · rw [readDownloadMetadata_set h.downloads, if_pos rfl]
    · rw [hasContent, if_neg (by simp [hjson]), cachedFile, Option.isSome_or, h.own]
      rfl

theorem downloaded_same (h : deniedPdf store item = false → isOwnContentStored store user item = true) :
    Downloaded user item store store where
  manifest := rfl
  metadata _ _ := rfl
  kept _ _ _ hstored := hstored
  denied _ := rfl
  stored := h

theorem downloadFile_ends (hjson : isJsonType item.type = false) :
    Ends (downloadFile browser user item url) store
      (fun _ after => Downloaded user item store after) fun _ _ => True := by
  refine ends_andThen (ends_orThrow ?_)
  split_ifs with hurl
  · refine ends_andThen (ends_decided (fun response _ => ?_) fun _ _ => trivial)
    split_ifs with hresponse
    · refine ends_andThen (ends_orThrow ?_)
      dsimp only
      split_ifs with hintegrity
      · exact ends_throw
      · refine storePdfBlob_ends.imp (fun _ after hafter => ?_) fun _ _ _ => trivial
        split_ifs at hafter with hdenied
        · rw [hafter]
          refine downloaded_same fun hpdf => ?_
          simp [deniedPdf, hjson, hdenied] at hpdf
        · exact hafter.downloaded hjson (by simpa using hdenied)
    · exact ends_throw
  · exact ends_throw

theorem downloadOne_ends :
    Ends (downloadOne browser user item) store
      (fun _ after => Downloaded user item store after) fun _ _ => True := by
  refine ends_andThen (ends_orThrow ?_)
  cases item.available with
  | false => exact ends_throw
  | true =>
    cases item.downloadUrl with
    | none => exact ends_throw
    | some url =>
      refine ends_andThen (ends_orThrow ?_)
      refine ends_andThen (ends_decided (fun stored hstored => ?_) fun _ _ => trivial)
      obtain rfl : isOwnContentStored store user item = stored := Except.ok.inj hstored
      split_ifs with hstored hlow hjson
      · exact ends_decided (fun _ _ => downloaded_same fun _ => hstored) fun _ _ => trivial
      · exact ends_throw
      · exact downloadJson_ends hjson
      · exact downloadFile_ends (by simpa using hjson)

end LockIn.OfflineDownloads
