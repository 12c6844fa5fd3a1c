import SampleLibrary.Analyzer.Cached
import SampleLibrary.Proofs.Cache.Recency
import SampleLibrary.Proofs.Files.Following

/-!
# What a caching analyzer answers

A version of a file that was seen before is not analyzed again: the answer is that of an earlier inquiry,
with the path of the present one. Which inquiry that is can be told from a plain list of inquiries by last
use (`sources`). So a file whose content stays what it is gets the checksum that the plain analyzer would
tell, but the format is taken from the name under which the file was first asked for
(`cached_answers`).
-/

namespace SampleLibrary

/-! ## Lists of entries with other values -/

namespace Recency

variable {α β γ : Type} [BEq α]

/-- The list with each value replaced by another one. -/
def map (f : β → γ) (r : Recency α β) : Recency α γ where
  capacity := r.capacity
  entries := r.entries.map fun e => (e.1, f e.2)
  hits := r.hits
  misses := r.misses

variable (f : β → γ) (r : Recency α β) (key : α)

theorem find?_map : (r.map f).find? key = (r.find? key).map fun e => (e.1, f e.2) := by
  simp only [find?, map, List.find?_map]
  rfl

theorem use_map (entry : α × β) :
    (r.map f).use key (entry.1, f entry.2) = (r.use key entry).map f := by
  simp [use, map, List.eraseP_map, Function.comp_def]

theorem get?_map : (r.map f).get? key = ((r.get? key).1.map f, (r.get? key).2.map f) := by
  unfold get?
  rw [find?_map]
  cases r.find? key with
  | none => rfl
  | some entry =>
      dsimp only [Option.map_some]
      rw [use_map]
      rfl

theorem put_map (value : β) : (r.map f).put key (f value) = (r.put key value).map f := by
  unfold put
  rw [find?_map]
  by_cases useless : r.capacity = 0
  · rw [if_pos useless, if_pos (show (r.map f).capacity = 0 from useless)]
  · rw [if_neg useless, if_neg (show (r.map f).capacity ≠ 0 from useless)]
    cases r.find? key with
    | some entry => exact use_map f r key (entry.1, value)
    | none =>
        simp only [Option.map_none, map, List.length_map, List.map_append, List.map_cons,
          List.map_nil]
        split <;> simp

variable {f r key}

theorem mem_use {entry e : α × β} (membership : e ∈ (r.use key entry).entries) :
    e ∈ r.entries ∨ e = entry := by
  simp only [use, List.mem_append, List.mem_singleton] at membership
  exact membership.imp_left fun old => List.mem_of_mem_eraseP old

/-- Looking for a key brings in no entry. -/
theorem mem_get? {e : α × β} (membership : e ∈ (r.get? key).2.entries) : e ∈ r.entries := by
  unfold get? at membership
  cases found : r.find? key with
  | none => simpa [found] using membership
  | some entry =>
      rw [found] at membership
      obtain old | rfl := mem_use membership
      · exact old
      · exact List.mem_of_find?_eq_some found

theorem mem_put [LawfulBEq α] {value : β} {e : α × β} (membership : e ∈ (r.put key value).entries) :
    e ∈ r.entries ∨ e = (key, value) := by
  unfold put at membership
  split at membership
  · exact .inl membership
  · split at membership
    · rename_i entry found
      have same : entry.1 = key := by simpa using List.find?_some found
      rw [← same]
      exact mem_use membership
    · simp only [List.mem_append, List.mem_singleton] at membership
      apply membership.imp_left
      intro old
      split at old
      · exact List.mem_of_mem_tail old
      · exact old

end Recency

namespace Analyzer

/-! ## Inquiries -/

/-- A path that is asked about, and the files at that moment. -/
structure Inquiry where
  files : Files
  path : String

namespace Inquiry

/-- The version of the file that is asked about. -/
def version (q : Inquiry) : Except AnalyzerError FileVersion :=
  FileVersion.ofPath q.files q.path

/-- What the plain analyzer answers. -/
def answer (q : Inquiry) : Except AnalyzerError FileInfo := inspect q.files q.path

end Inquiry

/-- The answers of an analyzer to one inquiry after the other. -/
def answers {σ : Type} (a : Analyzer σ) : σ → List Inquiry → List (Except AnalyzerError FileInfo)
  | _, [] => []
  | kept, q :: rest =>
    let (answer, kept) := a.analyze q.files q.path kept
    answer :: answers a kept rest

/-- For one inquiry after the other, the one that it is answered from: one for the same version that is
still remembered, or else itself. -/
def sources (r : Recency FileVersion Inquiry) : List Inquiry → List Inquiry
  | [] => []
  | q :: rest =>
    match q.version with
    | .error _ => q :: sources r rest
    | .ok version =>
      match r.get? version with
      | (some first, r) => first :: sources r rest
      | (none, r) => q :: sources (r.put version q) rest

/-- No file has another content without another size or another time of change. -/
def Steady (qs : List Inquiry) : Prop :=
  ∀ q ∈ qs, ∀ q' ∈ qs, ∀ (location : Location) (id id' : Nat),
    q.files.nodes[location]? = some (.file id) → q'.files.nodes[location]? = some (.file id') →
    (q.files.dataOf id).content.toBytes.size = (q'.files.dataOf id').content.toBytes.size →
    (q.files.dataOf id).modified = (q'.files.dataOf id').modified →
    (q.files.dataOf id).content.toBytes = (q'.files.dataOf id').content.toBytes

/-- The answer to an inquiry, if there is one. -/
def Inquiry.info (q : Inquiry) : FileInfo := q.answer.toOption.getD (.ofPath q.path)

/-- What an inquiry is answered with that is answered from another one. -/
def Inquiry.answerFrom (first q : Inquiry) : Except AnalyzerError FileInfo :=
  q.version.map fun _ => { first.info with path := q.path }

section Inquiries

variable {q q' first : Inquiry} {version : FileVersion} {e : AnalyzerError}

/-- Where there is a version of a file, there is the file, and the plain analyzer answers. -/
theorem of_version (found : q.version = .ok version) :
    ∃ id, q.files.nodes[version.location]? = some (.file id) ∧
      (q.files.dataOf id).content.toBytes.size = version.size ∧
      (q.files.dataOf id).modified = version.modified ∧
      q.info = { FileInfo.ofPath q.path with
        format := format? q.path, md5 := some (Md5.checksum (q.files.dataOf id).content.toBytes) } ∧
      q.answer = .ok q.info := by
  unfold Inquiry.version FileVersion.ofPath at found
  split at found
  · rename_i location id leads
    cases found
    have isFile : q.files.isFile q.path = true := by simp [Files.isFile, leads]
    have answered : q.answer = .ok { FileInfo.ofPath q.path with
        format := format? q.path, md5 := some (Md5.checksum (q.files.dataOf id).content.toBytes) } := by
      simp [Inquiry.answer, inspect, isFile, checksum, Files.read_of_stat leads, Except.map]
    apply Exists.intro id
    refine ⟨Files.nodes_of_stat leads (by simp), rfl, rfl, ?_, ?_⟩
    · simp [Inquiry.info, answered, Except.toOption]
    · simp [Inquiry.info, answered, Except.toOption]
  · cases found
  · cases found

/-- Where there is none, the plain analyzer does not answer either. -/
theorem answer_of_no_version (missing : q.version = .error e) : ∃ e', q.answer = .error e' := by
  apply Exists.intro (.notAFile q.path)
  unfold Inquiry.version FileVersion.ofPath at missing
  unfold Inquiry.answer inspect
  split at missing
  · cases missing
  · rename_i location node notFile leads
    have noFile : q.files.isFile q.path = false := by
      cases node with
      | file id => exact absurd rfl (notFile id)
      | directory | link => simp [Files.isFile, leads]
    simp [noFile]
  · rename_i failure leads
    simp [Files.isFile, leads]

end Inquiries

/-! ## The cache and the list -/

/-- Every inquiry in a list stands under the version that it is about. -/
def Owned (r : Recency FileVersion Inquiry) : Prop :=
  ∀ entry ∈ r.entries, entry.2.version = .ok entry.1

/-- A cache holds the answers to the inquiries of a list. -/
structure Remembers (c : Cache FileVersion FileInfo) (r : Recency FileVersion Inquiry) : Prop where
  held : ∃ placed, c.Holds placed ∧ c.asList placed = r.map Inquiry.info
  owned : Owned r

section Lookup

variable {c : Cache FileVersion FileInfo} {r r' : Recency FileVersion Inquiry}
  {q first : Inquiry} {version : FileVersion}

theorem Owned.get? (owned : Owned r) (version : FileVersion) : Owned (r.get? version).2 :=
  fun entry membership => owned entry (Recency.mem_get? membership)

theorem Owned.put (owned : Owned r) (seen : q.version = .ok version) : Owned (r.put version q) := by
  intro entry membership
  obtain old | rfl := Recency.mem_put membership
  · exact owned entry old
  · exact seen

/-- What is found for a version is an inquiry about it. -/
theorem Owned.of_get? (owned : Owned r) (found : (r.get? version).1 = some first) :
    first.version = .ok version ∧ ∃ entry ∈ r.entries, entry.2 = first := by
  unfold Recency.get? at found
  split at found
  · rename_i entry isFirst
    cases found
    have isEntry := List.mem_of_find?_eq_some isFirst
    have same : entry.1 = version := by simpa using List.find?_some isFirst
    exact ⟨same ▸ owned entry isEntry, entry, isEntry, rfl⟩
  · cases found

theorem remembers_empty (capacity : Nat) : Remembers (.empty capacity) ⟨capacity, [], 0, 0⟩ :=
  ⟨⟨[], .empty capacity, rfl⟩, by simp [Owned]⟩

/-- Looking for a version in the cache is looking for it in the list. -/
theorem Remembers.get? (remembers : Remembers c r) (version : FileVersion) :
    (c.get? version).1 = (r.get? version).1.map Inquiry.info ∧
      Remembers (c.get? version).2 (r.get? version).2 := by
  obtain ⟨placed, holds, same⟩ := remembers.held
  obtain ⟨placed', holds', looked⟩ := holds.get? version
  rw [same, Recency.get?_map, Prod.mk.injEq] at looked
  exact ⟨looked.1.symm, ⟨placed', holds', looked.2.symm⟩, remembers.owned.get? version⟩

theorem Remembers.put (remembers : Remembers c r) (seen : q.version = .ok version) :
    Remembers (c.put version q.info) (r.put version q) := by
  obtain ⟨placed, holds, same⟩ := remembers.held
  obtain ⟨placed', holds', stored⟩ := holds.put version q.info
  rw [same, Recency.put_map] at stored
  exact ⟨⟨placed', holds', stored.symm⟩, remembers.owned.put seen⟩

end Lookup

/-! ## One call after the other -/

section Calls

variable {c : Cache FileVersion FileInfo} {r : Recency FileVersion Inquiry}

/-- The caching analyzer answers every inquiry from its source. -/
theorem answers_eq (remembers : Remembers c r) (qs : List Inquiry) :
    answers (cached basic) (c, ()) qs =
      List.zipWith Inquiry.answerFrom (sources r qs) qs := by
  induction qs generalizing c r with
  | nil => rfl
  | cons q rest inductionHypothesis =>
      unfold answers sources
      show (lookUp basic q.files q.path (c, ())).1 ::
        answers (cached basic) (lookUp basic q.files q.path (c, ())).2 rest = _
      unfold lookUp
      rw [show FileVersion.ofPath q.files q.path = q.version from rfl]
      cases seen : q.version with
      | error e =>
          dsimp only
          rw [inductionHypothesis remembers, List.zipWith_cons_cons, Inquiry.answerFrom, seen]
          rfl
      | ok version =>
          obtain ⟨looked, remembers'⟩ := remembers.get? version
          dsimp only
          cases found : r.get? version with
          | mk source r' =>
              cases cachedAnswer : c.get? version with
              | mk info c' =>
                  rw [found, cachedAnswer] at looked remembers'
                  dsimp only at looked remembers' ⊢
                  subst looked
                  cases source with
                  | some first =>
                      dsimp only [Option.map_some]
                      rw [inductionHypothesis remembers', List.zipWith_cons_cons,
                        Inquiry.answerFrom, seen]
                      rfl
                  | none =>
                      obtain ⟨id, -, -, -, info, answered⟩ := of_version seen
                      have asked : basic.analyze q.files q.path () = (.ok q.info, ()) := by
                        rw [← answered]
                        rfl
                      dsimp only [Option.map_none]
                      rw [asked]
                      dsimp only
                      rw [inductionHypothesis (remembers'.put seen), List.zipWith_cons_cons,
                        Inquiry.answerFrom, seen]
                      simp [Except.map, info, FileInfo.ofPath]

theorem length_sources (r : Recency FileVersion Inquiry) (qs : List Inquiry) :
    (sources r qs).length = qs.length := by
  induction qs generalizing r with
  | nil => rfl
  | cons q rest inductionHypothesis =>
      unfold sources
      split
      · simp [inductionHypothesis]
      · split <;> simp [inductionHypothesis]

/-- The first inquiry is answered from itself or from one that is remembered, and may be remembered for
the others. -/
theorem sources_cons (owned : Owned r) (q : Inquiry) (rest : List Inquiry) :
    ∃ first r', sources r (q :: rest) = first :: sources r' rest ∧ first.version = q.version ∧
      (first = q ∨ ∃ entry ∈ r.entries, entry.2 = first) ∧ Owned r' ∧
      ∀ entry ∈ r'.entries, entry ∈ r.entries ∨ entry.2 = q := by
  rw [sources]
  cases seen : q.version with
  | error e => exact ⟨q, r, rfl, seen, .inl rfl, owned, fun entry old => .inl old⟩
  | ok version =>
      have among : ∀ entry ∈ (r.get? version).2.entries, entry ∈ r.entries :=
        fun entry => Recency.mem_get?
      have kept := owned.get? version
      cases looked : r.get? version with
      | mk found r' =>
          rw [looked] at among kept
          dsimp only
          rw [looked]
          cases found with
          | some first =>
              obtain ⟨about, remembered⟩ := owned.of_get? (congrArg Prod.fst looked)
              exact ⟨first, r', rfl, about, .inr remembered, kept,
                fun entry old => .inl (among entry old)⟩
          | none =>
              refine ⟨q, r'.put version q, rfl, seen, .inl rfl, kept.put seen, ?_⟩
              intro entry membership
              obtain old | rfl := Recency.mem_put membership
              · exact .inl (among entry old)
              · exact .inr rfl

/-- An inquiry is answered from itself, from one before it or from one that was remembered already, and
from one about the same version. -/
theorem mem_sources (owned : Owned r) {qs : List Inquiry} {k : Nat} {q first : Inquiry}
    (present : qs[k]? = some q) (source : (sources r qs)[k]? = some first) :
    first.version = q.version ∧
      (first ∈ qs.take (k + 1) ∨ ∃ entry ∈ r.entries, entry.2 = first) := by
  induction qs generalizing r k with
  | nil => simp at present
  | cons p rest inductionHypothesis =>
      obtain ⟨start, r', equation, about, origin, owned', among⟩ := sources_cons owned p rest
      rw [equation] at source
      cases k with
      | zero =>
          cases present
          cases source
          refine ⟨about, ?_⟩
          obtain rfl | remembered := origin
          · exact .inl (by simp)
          · exact .inr remembered
      | succ k =>
          obtain ⟨same, before | ⟨entry, remembered, rfl⟩⟩ :=
            inductionHypothesis owned' present source
          · exact ⟨same, .inl (List.mem_cons_of_mem _ before)⟩
          · refine ⟨same, ?_⟩
            obtain old | rfl := among entry remembered
            · exact .inr ⟨entry, old, rfl⟩
            · exact .inl (by simp)

/-- Two inquiries about one version see the same content, if files are steady. -/
theorem Steady.content {qs : List Inquiry} {q first : Inquiry} {version : FileVersion} (steady : Steady qs)
    (isFirst : first ∈ qs) (isInquiry : q ∈ qs) (seenFirst : first.version = .ok version)
    (seen : q.version = .ok version) : first.info.md5 = q.info.md5 := by
  obtain ⟨id, there, size, modified, info, -⟩ := of_version seenFirst
  obtain ⟨id', there', size', modified', info', -⟩ := of_version seen
  have same := steady first isFirst q isInquiry version.location id id' there there'
    (size.trans size'.symm) (modified.trans modified'.symm)
  rw [info, info', same]

/-- Every inquiry is answered from an inquiry about the same version, which is itself or came before it,
and there is an answer whenever the plain analyzer has one. The path in it is the present one, but format
and checksum are those of the other inquiry. So where no content changes without another size or time,
the answer is that of the plain analyzer if and only if the two paths stand for the same format. -/
theorem cached_answers (capacity : Nat) {qs : List Inquiry} {k : Nat} {q : Inquiry}
    (present : qs[k]? = some q) :
    ∃ first answer, (sources ⟨capacity, [], 0, 0⟩ qs)[k]? = some first ∧
      first ∈ qs.take (k + 1) ∧ first.version = q.version ∧
      (answers (cached basic) (.empty capacity, ()) qs)[k]? = some answer ∧
      ((∃ info, answer = .ok info) ↔ ∃ plain, q.answer = .ok plain) ∧
      ∀ info plain, answer = .ok info → q.answer = .ok plain →
        info = { plain with format := format? first.path, md5 := first.info.md5 } ∧
        (Steady qs → (info = plain ↔ format? first.path = format? q.path)) := by
  have remembers := remembers_empty capacity
  obtain ⟨first, source⟩ : ∃ first, (sources ⟨capacity, [], 0, 0⟩ qs)[k]? = some first := by
    have inside := (List.getElem?_eq_some_iff.mp present).1
    rw [← length_sources ⟨capacity, [], 0, 0⟩ qs] at inside
    exact ⟨_, List.getElem?_eq_getElem inside⟩
  obtain ⟨same, before | ⟨entry, never, -⟩⟩ := mem_sources remembers.owned present source
  · have told : (answers (cached basic) (.empty capacity, ()) qs)[k]? = some (first.answerFrom q) := by
      rw [answers_eq remembers, List.getElem?_zipWith, source, present]
    refine ⟨first, _, source, before, same, told, ?_⟩
    cases seen : q.version with
    | error e =>
        obtain ⟨e', failed⟩ := answer_of_no_version seen
        simp [Inquiry.answerFrom, seen, failed, Except.map]
    | ok version =>
        obtain ⟨id, -, -, -, info, answered⟩ := of_version seen
        obtain ⟨id', -, -, -, info', -⟩ := of_version (same.trans seen)
        constructor
        · simp [Inquiry.answerFrom, seen, answered, Except.map]
        · intro told plain isTold isPlain
          rw [Inquiry.answerFrom, seen] at isTold
          obtain rfl := Except.ok.inj isTold
          obtain rfl := Except.ok.inj (answered.symm.trans isPlain)
          constructor
          · rw [info, info']
            rfl
          · intro steady
            have md5 := steady.content (List.mem_of_mem_take before)
              (List.mem_of_getElem? present) (same.trans seen) seen
            rw [info, info'] at md5 ⊢
            constructor
            · intro same
              exact congrArg FileInfo.format same
            · intro format
              dsimp only at md5 ⊢
              rw [format, md5]
              rfl
  · cases never

end Calls

/-! ## A file and a link to it -/

/-- A file with one byte, and a link to it with another name. -/
def linkedFile (name : String) : Files where
  nodes := .ofList ([(["kick.wav"], .file 0), ([name], .link "kick.wav")] : List (Location × Node))
  data := .ofList ([(0, ⟨.bytes ⟨#[120]⟩, 0⟩)] : List (Nat × FileData))
  nextId := 1
  clock := 0
  working := []

/-- The file is asked for by its own name and then by that of the link. -/
def askedTwice (name : String) : List Inquiry :=
  [⟨linkedFile name, "kick.wav"⟩, ⟨linkedFile name, name⟩]

theorem steady_of_unchanged {qs : List Inquiry} {fs : Files} (unchanged : ∀ q ∈ qs, q.files = fs) :
    Steady qs := by
  intro q isInquiry q' isInquiry' location id id' there there' size modified
  rw [unchanged q isInquiry] at there
  rw [unchanged q' isInquiry'] at there'
  obtain rfl : id = id' := by simpa using there.symm.trans there'
  rw [unchanged q isInquiry, unchanged q' isInquiry']

theorem askedTwice_steady (name : String) : Steady (askedTwice name) := by
  have unchanged : ∀ q ∈ askedTwice name, q.files = linkedFile name := by simp [askedTwice]
  exact steady_of_unchanged unchanged

/-- Through a link with the same extension, the answer is that of the plain analyzer. -/
theorem kick_answered_from_cache :
    (askedTwice "loop.wav")[1]? = some ⟨linkedFile "loop.wav", "loop.wav"⟩ ∧
      Steady (askedTwice "loop.wav") ∧
      ∃ info, (answers (cached basic) (.empty 4, ()) (askedTwice "loop.wav"))[1]? = some (.ok info) ∧
        inspect (linkedFile "loop.wav") "loop.wav" = .ok info := by
  have steady := askedTwice_steady "loop.wav"
  refine ⟨rfl, steady, ?_⟩
  obtain ⟨first, answer, source, -, -, told, answered, same⟩ :=
    cached_answers 4 (show (askedTwice "loop.wav")[1]? =
      some ⟨linkedFile "loop.wav", "loop.wav"⟩ from rfl)
  have path : ((sources ⟨4, [], 0, 0⟩ (askedTwice "loop.wav"))[1]?.map Inquiry.path) =
      some "kick.wav" := by
    decide +kernel
  rw [source, Option.map_some, Option.some.injEq] at path
  have isThere : (inspect (linkedFile "loop.wav") "loop.wav").isOk = true := rfl
  cases plain : inspect (linkedFile "loop.wav") "loop.wav" with
  | error e =>
      rw [plain] at isThere
      cases isThere
  | ok info =>
      obtain ⟨info', rfl⟩ := answered.mpr ⟨info, plain⟩
      obtain ⟨-, exactly⟩ := same info' info rfl plain
      have formats : format? first.path = format? "loop.wav" := by
        rw [path]
        decide +kernel
      rw [(exactly steady).mpr formats] at told
      exact ⟨info, told, rfl⟩

/-- Through a link with another extension, it is not: the format stays that of the first name. -/
theorem aiff_answered_as_wav :
    Steady (askedTwice "kick.aiff") ∧
      ((answers (cached basic) (.empty 4, ()) (askedTwice "kick.aiff"))[1]?.bind
        Except.toOption).bind FileInfo.format = some "WAV" ∧
      (inspect (linkedFile "kick.aiff") "kick.aiff").toOption.bind FileInfo.format = some "AIFF" := by
  refine ⟨askedTwice_steady "kick.aiff", ?_, rfl⟩
  rw [answers_eq (remembers_empty 4)]
  rfl

end Analyzer

end SampleLibrary
