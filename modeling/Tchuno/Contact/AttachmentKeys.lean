import Tchuno.Contact.UploadPolicy
import Tchuno.Library.Texts

/-!
# The keys that are issued and the keys that are accepted

An upload is issued under `uploads/messages/{userId}/{jobId}/{uuid}.{ext}`.  A
reference is accepted if its key begins with the folder of the sender and the job and
ends in an extension of its type; what stands between them is not looked at.
-/

namespace Tchuno.Contact

open Tchuno.Library Tchuno.Library.Ecma Tchuno.Payments

/-! ## Issued and accepted keys -/

/-- An identifier which can be one segment of a path. -/
abbrev PathSegment := { text : String // text ≠ "" ∧ '/' ∉ text.toList }

def isLowerHex (c : Char) : Bool :=
  c.isDigit || ('a' ≤ c && c ≤ 'f')

/-- Groups of eight, four, four, four and twelve hexadecimal digits. -/
def isCanonicalUuid (text : String) : Bool :=
  text.toList.length = 36 && text.toList.zipIdx.all fun (c, index) =>
    if index ∈ [8, 13, 18, 23] then c = '-' else isLowerHex c

/-- The extension which is issued for a content type. -/
def issuedExtension (contentType : String) : String :=
  ((extensionByMimeType.lookup contentType).bind List.head?).getD ""

/-- Some file can be given an upload under this key. -/
def IssuesKey (userId jobId contentType key : String) : Prop :=
  ∃ dto uuid upload, dto.contentType = contentType ∧ isCanonicalUuid uuid = true ∧
    buildMessageAttachmentUpload dto jobId userId uuid = .ok upload ∧ upload.key = key

/-- Some reference to this key is accepted. -/
def AcceptsKey (userId jobId contentType key : String) : Prop :=
  ∃ url size validated,
    validateMessageAttachmentReference
      { key := key, url := url, contentType := contentType, size := size } jobId userId =
        .ok validated

/-- The extension of a file name is one of its content type, in any case. -/
def HasAllowedExtension (contentType fileName : String) : Prop :=
  ∃ stem extension allowed, splitAtLast? '.' fileName = some (stem, extension) ∧
    extensionByMimeType.lookup contentType = some allowed ∧
    toLowerCase extension ∈ allowed

/-- Behind the folder of the sender and the job there is a name of the issued form, or
one without an extension of the type. -/
def IsPlainKey (userId jobId contentType key : String) : Prop :=
  ∀ fileName, key = attachmentPrefix userId jobId ++ fileName →
    HasAllowedExtension contentType fileName →
      ∃ uuid, isCanonicalUuid uuid = true ∧
        fileName = uuid ++ "." ++ issuedExtension contentType

/-! ## What is issued -/

theorem allowed_types {contentType : String} {allowed : List String}
    (listed : extensionByMimeType.lookup contentType = some allowed) :
    (contentType, allowed) ∈ extensionByMimeType := by
  unfold extensionByMimeType at listed ⊢
  simp only [List.lookup] at listed
  split at listed
  · rename_i same
    have named := beq_iff_eq.mp same
    simp_all
  · split at listed
    · rename_i same
      have named := beq_iff_eq.mp same
      simp_all
    · split at listed
      · rename_i same
        have named := beq_iff_eq.mp same
        simp_all
      · cases listed

theorem issuedExtension_mem {contentType : String} {allowed : List String}
    (listed : extensionByMimeType.lookup contentType = some allowed) :
    issuedExtension contentType ∈ allowed := by
  have member := allowed_types listed
  simp only [extensionByMimeType, List.mem_cons, List.not_mem_nil, or_false] at member
  rcases member with same | same | same <;> cases same <;> decide

theorem issued_key {dto : PresignUploadDto} {jobId userId uuid : String}
    {upload : AttachmentUpload}
    (built : buildMessageAttachmentUpload dto jobId userId uuid = .ok upload) :
    upload.key = attachmentPrefix userId jobId ++ uuid ++ "." ++
        issuedExtension dto.contentType ∧
      ∃ allowed, extensionByMimeType.lookup dto.contentType = some allowed := by
  simp only [buildMessageAttachmentUpload, supportedExtensions, gate_bind_eq_ok,
    orThrow_eq_ok, guardThat_eq_ok, gate_pure_eq_ok, checkAttachmentSize] at built
  obtain ⟨allowed, listed, _, _, extension, _, _, matching, rfl⟩ := built
  have member := allowed_types listed
  simp only [extensionByMimeType, List.mem_cons, List.not_mem_nil, or_false] at member
  have named : (if dto.contentType = "image/jpeg" then "jpg" else extension) =
      issuedExtension dto.contentType := by
    rcases member with same | same | same
    · have typed : dto.contentType = "image/jpeg" := congrArg Prod.fst same
      rw [typed, if_pos rfl]
      decide
    · have typed : dto.contentType = "image/png" := congrArg Prod.fst same
      have only : allowed = ["png"] := congrArg Prod.snd same
      rw [only, List.mem_singleton] at matching
      rw [typed, matching]
      decide
    · have typed : dto.contentType = "image/webp" := congrArg Prod.fst same
      have only : allowed = ["webp"] := congrArg Prod.snd same
      rw [only, List.mem_singleton] at matching
      rw [typed, matching]
      decide
  exact ⟨by rw [← named], allowed, listed⟩

/-- A file of each type which the issuer takes. -/
def sampleUpload (contentType : String) : PresignUploadDto where
  fileName := "photo." ++ issuedExtension contentType
  contentType := contentType
  sizeBytes := 1
  expiresIn := none

theorem builds_sample {contentType : String} {allowed : List String}
    (listed : extensionByMimeType.lookup contentType = some allowed)
    (jobId userId uuid : String) :
    ∃ upload,
      buildMessageAttachmentUpload (sampleUpload contentType) jobId userId uuid =
        .ok upload := by
  have passes : getExtension ("photo." ++ issuedExtension contentType) =
      .ok (issuedExtension contentType) := by
    have member := allowed_types listed
    simp only [extensionByMimeType, List.mem_cons, List.not_mem_nil, or_false] at member
    rcases member with same | same | same <;> cases same <;> decide +kernel
  simp only [buildMessageAttachmentUpload, supportedExtensions, gate_bind_eq_ok,
    orThrow_eq_ok, guardThat_eq_ok, gate_pure_eq_ok, checkAttachmentSize]
  have size : (1 : Int) ≤ 1 ∧ (1 : Int) ≤ messageAttachmentMaxBytes := by decide
  exact ⟨_, allowed, listed, (), size, issuedExtension contentType, passes, (),
    issuedExtension_mem listed, rfl⟩

theorem issuesKey_iff {userId jobId contentType key : String} {allowed : List String}
    (listed : extensionByMimeType.lookup contentType = some allowed) :
    IssuesKey userId jobId contentType key ↔
      ∃ uuid, isCanonicalUuid uuid = true ∧
        key = attachmentPrefix userId jobId ++ (uuid ++ "." ++ issuedExtension contentType) := by
  constructor
  · rintro ⟨dto, uuid, upload, typed, canonical, built, rfl⟩
    have named := (issued_key built).1
    rw [typed] at named
    exact ⟨uuid, canonical, by rw [named]; simp only [String.append_assoc]⟩
  · rintro ⟨uuid, canonical, rfl⟩
    obtain ⟨upload, built⟩ := builds_sample listed jobId userId uuid
    have named : upload.key =
        attachmentPrefix userId jobId ++ uuid ++ "." ++ issuedExtension contentType :=
      (issued_key built).1
    exact ⟨sampleUpload contentType, uuid, upload, rfl, canonical, built, by
      rw [named]; simp only [String.append_assoc]⟩

/-! ## What is accepted -/

theorem slash_mem_toLowerCase {text : String} (member : '/' ∈ text.toList) :
    '/' ∈ (toLowerCase text).toList := by
  have kept : '/' ∈ lowerCaseChar '/' := by decide
  simp only [toLowerCase, String.toList_ofList, List.mem_flatMap]
  exact ⟨'/', member, kept⟩

theorem slash_notMem_allowed {contentType extension : String} {allowed : List String}
    (listed : extensionByMimeType.lookup contentType = some allowed)
    (matching : extension ∈ allowed) : '/' ∉ extension.toList := by
  have member := allowed_types listed
  simp only [extensionByMimeType, List.mem_cons, List.not_mem_nil, or_false] at member
  have no_slash : ∀ name ∈ ["jpg", "jpeg", "png", "webp"], '/' ∉ name.toList := by decide
  apply no_slash
  rcases member with same | same | same
  · cases same
    exact List.mem_append_left ["png", "webp"] matching
  · cases same
    rw [List.mem_singleton.mp matching]
    decide
  · cases same
    rw [List.mem_singleton.mp matching]
    decide

/-- The text behind the last dot of a key, or the whole key, in lower case. -/
def keyExtension (key : String) : String :=
  toLowerCase (((splitAtLast? '.' key).map Prod.snd).getD key)

theorem keyExtension_of_fileName {folder fileName stem extension : String}
    (own : splitAtLast? '.' fileName = some (stem, extension)) :
    keyExtension (folder ++ "/" ++ fileName) = toLowerCase extension := by
  have divided := splitAtLast?_eq_some.mp own
  have whole : splitAtLast? '.' (folder ++ "/" ++ fileName) =
      some (folder ++ "/" ++ stem, extension) := by
    apply splitAtLast?_eq_some.mpr
    refine ⟨?_, divided.2⟩
    simp [divided.1]
  rw [keyExtension, whole]
  rfl

/-- Without a slash in it, the text behind the last dot belongs to the file name. -/
theorem keyExtension_fileName {folder fileName : String}
    (free : '/' ∉ (keyExtension (folder ++ "/" ++ fileName)).toList) :
    ∃ stem extension, splitAtLast? '.' fileName = some (stem, extension) ∧
      keyExtension (folder ++ "/" ++ fileName) = toLowerCase extension := by
  have text : (folder ++ "/" ++ fileName).toList =
      folder.toList ++ '/' :: fileName.toList := by
    simp
  cases own : splitAtLast? '.' fileName with
  | some parts =>
      exact ⟨parts.1, parts.2, rfl, keyExtension_of_fileName own⟩
  | none =>
      have dotless := splitAtLast?_eq_none.mp own
      exfalso
      apply free
      apply slash_mem_toLowerCase
      cases found : splitAtLast? '.' (folder ++ "/" ++ fileName) with
      | none =>
          simp
      | some parts =>
          have divided := splitAtLast?_eq_some.mp (show _ = some (parts.1, parts.2) from found)
          -- the last dot stands in the folder, so the slash is behind it
          have overlap : parts.1.toList ++ '.' :: parts.2.toList =
              folder.toList ++ '/' :: fileName.toList := by
            rw [← divided.1, text]
          rcases List.append_eq_append_iff.mp overlap with
            ⟨between, _, rest⟩ | ⟨between, _, rest⟩
          · cases between with
            | nil =>
                have heads : '.' = '/' := by simpa using congrArg List.head? rest
                exact absurd heads (by decide)
            | cons head tail =>
                have behind : parts.2.toList = tail ++ '/' :: fileName.toList := by
                  simpa using congrArg List.tail rest
                simp [behind]
          · cases between with
            | nil =>
                have heads : '/' = '.' := by simpa using congrArg List.head? rest
                exact absurd heads (by decide)
            | cons head tail =>
                have behind : fileName.toList = tail ++ '.' :: parts.2.toList := by
                  simpa using congrArg List.tail rest
                exact absurd (by simp [behind]) dotless

theorem attachmentPrefix_eq (userId jobId : String) :
    attachmentPrefix userId jobId = ("uploads/messages/" ++ userId ++ "/" ++ jobId) ++ "/" :=
  rfl

theorem bound_iff {userId jobId key : String} :
    key.startsWith (attachmentPrefix userId jobId) = true ↔
      ∃ fileName, key = attachmentPrefix userId jobId ++ fileName := by
  rw [String.startsWith_string_iff]
  constructor
  · rintro ⟨rest, parts⟩
    exact ⟨String.ofList rest, String.toList_injective (by simp [parts])⟩
  · rintro ⟨fileName, rfl⟩
    exact ⟨fileName.toList, by simp⟩

theorem validate_accepts_iff {userId jobId : String} {reference : AttachmentReference} :
    (∃ validated,
        validateMessageAttachmentReference reference jobId userId = .ok validated) ↔
      (1 ≤ reference.size ∧ reference.size ≤ messageAttachmentMaxBytes) ∧
        isAbsoluteUrl reference.url = true ∧
        ∃ fileName, reference.key = attachmentPrefix userId jobId ++ fileName ∧
          HasAllowedExtension reference.contentType fileName := by
  simp only [validateMessageAttachmentReference, supportedExtensions, gate_bind_eq_ok,
    orThrow_eq_ok, guardThat_eq_ok, gate_pure_eq_ok, checkAttachmentSize, bound_iff]
  constructor
  · rintro ⟨_, allowed, listed, _, size, _, ⟨fileName, key⟩, _, matching, _, absolute, _⟩
    have free : '/' ∉ (keyExtension reference.key).toList :=
      slash_notMem_allowed listed matching
    rw [key, attachmentPrefix_eq] at free
    obtain ⟨stem, extension, own, same⟩ := keyExtension_fileName free
    have matched : toLowerCase extension ∈ allowed := by
      rw [← same, ← attachmentPrefix_eq, ← key]
      exact matching
    exact ⟨size, absolute, fileName, key, stem, extension, allowed, own, listed, matched⟩
  · rintro ⟨size, absolute, fileName, key, stem, extension, allowed, own, listed, matched⟩
    have matching : keyExtension reference.key ∈ allowed := by
      rw [key, attachmentPrefix_eq, keyExtension_of_fileName own]
      exact matched
    exact ⟨reference, allowed, listed, (), size, (), ⟨fileName, key⟩, (), matching, (),
      absolute, rfl⟩

theorem acceptsKey_iff {userId jobId contentType key : String} :
    AcceptsKey userId jobId contentType key ↔
      ∃ fileName, key = attachmentPrefix userId jobId ++ fileName ∧
        HasAllowedExtension contentType fileName := by
  constructor
  · rintro ⟨url, size, accepted⟩
    exact (validate_accepts_iff.mp accepted).2.2
  · intro named
    have absolute : isAbsoluteUrl "https://" = true := by decide +kernel
    have size : (1 : Int) ≤ 1 ∧ (1 : Int) ≤ messageAttachmentMaxBytes := by decide
    exact ⟨"https://", 1, validate_accepts_iff.mpr ⟨size, absolute, named⟩⟩

/-! ## Whose keys they are -/

theorem toList_segments (root user job name : String) :
    (root ++ user ++ "/" ++ job ++ "/" ++ name).toList =
      root.toList ++ (user.toList ++ '/' :: (job.toList ++ '/' :: name.toList)) := by
  simp

/-- The folder of a key tells the sender and the job. -/
theorem attachmentPrefix_inj {userId otherUser jobId otherJob : PathSegment}
    {fileName otherName : String}
    (same : attachmentPrefix userId.val jobId.val ++ fileName =
      attachmentPrefix otherUser.val otherJob.val ++ otherName) :
    userId = otherUser ∧ jobId = otherJob ∧ fileName = otherName := by
  have texts := congrArg String.toList same
  unfold attachmentPrefix at texts
  rw [toList_segments, toList_segments] at texts
  have behind_root := List.append_cancel_left texts
  have users := append_cons_inj_of_notMem userId.property.2 otherUser.property.2 behind_root
  have jobs := append_cons_inj_of_notMem jobId.property.2 otherJob.property.2 users.2
  exact ⟨Subtype.ext (String.toList_injective users.1),
    Subtype.ext (String.toList_injective jobs.1), String.toList_injective jobs.2⟩

/-- The types of `MESSAGE_ATTACHMENT_ALLOWED_MIME_TYPES`. -/
abbrev SupportedType :=
  { contentType : String // (extensionByMimeType.lookup contentType).isSome = true }

/-- An issued file name has an extension of its type. -/
theorem issued_hasAllowedExtension {contentType uuid : String} {allowed : List String}
    (listed : extensionByMimeType.lookup contentType = some allowed) :
    HasAllowedExtension contentType (uuid ++ "." ++ issuedExtension contentType) := by
  have member := allowed_types listed
  simp only [extensionByMimeType, List.mem_cons, List.not_mem_nil, or_false] at member
  have plain : '.' ∉ (issuedExtension contentType).toList ∧
      toLowerCase (issuedExtension contentType) = issuedExtension contentType := by
    rcases member with same | same | same <;> cases same <;> decide +kernel
  refine ⟨uuid, issuedExtension contentType, allowed, ?_, listed, ?_⟩
  · apply splitAtLast?_eq_some.mpr
    exact ⟨by simp, plain.1⟩
  · rw [plain.2]
    exact issuedExtension_mem listed

/-- Every issued key is accepted, in any valid reference, and belongs to one sender and
one job.  No other key is accepted exactly among those which have, behind the folder,
a name of the issued form or one without an extension of the type. -/
theorem attachment_keys_iff (userId jobId : PathSegment) (contentType : SupportedType)
    (key : String) :
    (IssuesKey userId.val jobId.val contentType.val key →
      ∀ url size, isAbsoluteUrl url = true → 1 ≤ size → size ≤ messageAttachmentMaxBytes →
        ∃ validated,
          validateMessageAttachmentReference
            { key := key, url := url, contentType := contentType.val, size := size }
            jobId.val userId.val = .ok validated) ∧
      (∀ (otherUser otherJob : PathSegment) (otherType : SupportedType),
        IssuesKey otherUser.val otherJob.val otherType.val key →
          AcceptsKey userId.val jobId.val contentType.val key →
            otherUser = userId ∧ otherJob = jobId) ∧
      ((AcceptsKey userId.val jobId.val contentType.val key ↔
          IssuesKey userId.val jobId.val contentType.val key) ↔
        IsPlainKey userId.val jobId.val contentType.val key) := by
  obtain ⟨allowed, listed⟩ := Option.isSome_iff_exists.mp contentType.property
  have issued := @issuesKey_iff userId.val jobId.val contentType.val key allowed listed
  refine ⟨?_, ?_, ?_⟩
  · intro own url size absolute positive at_most
    obtain ⟨uuid, _, named⟩ := issued.mp own
    exact validate_accepts_iff.mpr
      ⟨⟨positive, at_most⟩, absolute, _, named, issued_hasAllowedExtension listed⟩
  · intro otherUser otherJob otherType other accepted
    obtain ⟨otherAllowed, otherListed⟩ := Option.isSome_iff_exists.mp otherType.property
    obtain ⟨uuid, _, named⟩ := (issuesKey_iff otherListed).mp other
    obtain ⟨fileName, bound, _⟩ := acceptsKey_iff.mp accepted
    have same := attachmentPrefix_inj (named.symm.trans bound)
    exact ⟨same.1, same.2.1⟩
  · constructor
    · intro agree fileName bound extended
      obtain ⟨uuid, canonical, named⟩ :=
        issued.mp (agree.mp (acceptsKey_iff.mpr ⟨fileName, bound, extended⟩))
      have same := attachmentPrefix_inj (bound.symm.trans named)
      exact ⟨uuid, canonical, same.2.2⟩
    · intro plain
      constructor
      · intro accepted
        obtain ⟨fileName, bound, extended⟩ := acceptsKey_iff.mp accepted
        obtain ⟨uuid, canonical, named⟩ := plain fileName bound extended
        exact issued.mpr ⟨uuid, canonical, by rw [bound, named]⟩
      · intro own
        obtain ⟨uuid, _, named⟩ := issued.mp own
        exact acceptsKey_iff.mpr ⟨_, named, issued_hasAllowedExtension listed⟩

/-- Dot segments lead from the folder of one job to another. -/
theorem dot_segments_accepted :
    AcceptsKey "anna" "job1" "image/png" "uploads/messages/anna/job1/../../bela/job2/a.png" ∧
      ¬ IssuesKey "anna" "job1" "image/png"
        "uploads/messages/anna/job1/../../bela/job2/a.png" := by
  have listed : extensionByMimeType.lookup "image/png" = some ["png"] := by decide
  have bound : "uploads/messages/anna/job1/../../bela/job2/a.png" =
      attachmentPrefix "anna" "job1" ++ "../../bela/job2/a.png" := by decide
  constructor
  · apply acceptsKey_iff.mpr
    exact ⟨"../../bela/job2/a.png", bound, "../../bela/job2/a", "png", ["png"],
      by decide +kernel, listed, by decide +kernel⟩
  · intro own
    obtain ⟨uuid, canonical, named⟩ := (issuesKey_iff listed).mp own
    rw [bound] at named
    have texts := congrArg String.length named
    have counted : uuid.length = 36 := by
      simp only [isCanonicalUuid, Bool.and_eq_true, decide_eq_true_eq] at canonical
      rw [← String.length_toList]
      exact canonical.1
    have short : ("../../bela/job2/a.png" : String).length = 21 := by decide
    have png : issuedExtension "image/png" = "png" := by decide
    have dot : (".".length = 1 ∧ "png".length = 3) := by decide
    simp only [String.length_append, counted, short, png, dot.1, dot.2] at texts
    omega

end Tchuno.Contact
