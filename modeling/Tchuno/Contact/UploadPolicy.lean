import Tchuno.Payments.Gateway

/-!
# The upload policy of message attachments

Images of a few types, of at most five megabytes, under a key which is bound to the
job and the sender.
-/

namespace Tchuno.Contact

open Tchuno.Library Tchuno.Library.Ecma Tchuno.Payments

def messageAttachmentMaxBytes : Int := 5 * 1024 * 1024
def messageAttachmentDefaultExpiresSeconds : Int := 300

/-- `extensionByMimeType`; other types are not supported. -/
def extensionByMimeType : List (String × List String) :=
  [("image/jpeg", ["jpg", "jpeg"]), ("image/png", ["png"]), ("image/webp", ["webp"])]

def supportedExtensions (contentType : String) : Except ApiError (List String) :=
  orThrow (extensionByMimeType.lookup contentType)
    (.badRequest "Unsupported attachment content type")

/-- A size within the policy. -/
def checkAttachmentSize (size : Int) : Except ApiError Unit :=
  guardThat (1 ≤ size ∧ size ≤ messageAttachmentMaxBytes)
    (.badRequest "Attachment size exceeds policy")

def isControlCharacter (c : Char) : Bool :=
  c.toNat < 32 || c.toNat = 127

def getExtension (fileName : String) : Except ApiError String := do
  let trimmed := trim fileName
  guardThat (trimmed ≠ "" ∧ '/' ∉ trimmed.toList ∧ '\\' ∉ trimmed.toList ∧
      trimmed.toList.any isControlCharacter = false)
    (.badRequest "Invalid attachment file name")
  let parts ← orThrow
    ((splitAtLast? '.' trimmed).filter fun parts => parts.1 ≠ "" && parts.2 ≠ "")
    (.badRequest "Attachment file extension is required")
  pure (toLowerCase parts.2)

/-- The keys of one sender in one job. -/
def attachmentPrefix (userId jobId : String) : String :=
  "uploads/messages/" ++ userId ++ "/" ++ jobId ++ "/"

structure PresignUploadDto where
  fileName : String
  contentType : String
  sizeBytes : Int
  expiresIn : Option Int

structure AttachmentUpload where
  key : String
  contentType : String
  sizeBytes : Int
  maxSizeBytes : Int
  expiresIn : Int

/-- `uuid` is the identifier drawn for the key. -/
def buildMessageAttachmentUpload (dto : PresignUploadDto) (jobId userId uuid : String) :
    Except ApiError AttachmentUpload := do
  let allowedExtensions ← supportedExtensions dto.contentType
  checkAttachmentSize dto.sizeBytes
  let extension ← getExtension dto.fileName
  guardThat (extension ∈ allowedExtensions)
    (.badRequest "Attachment extension does not match content type")
  let canonicalExtension := if dto.contentType = "image/jpeg" then "jpg" else extension
  pure
    { key := attachmentPrefix userId jobId ++ uuid ++ "." ++ canonicalExtension
      contentType := dto.contentType
      sizeBytes := dto.sizeBytes
      maxSizeBytes := messageAttachmentMaxBytes
      expiresIn := dto.expiresIn.getD messageAttachmentDefaultExpiresSeconds }

structure AttachmentReference where
  key : String
  url : String
  contentType : String
  size : Int
  deriving DecidableEq

/-- `/^https?:\/\//` -/
def isAbsoluteUrl (url : String) : Bool :=
  url.startsWith "http://" || url.startsWith "https://"

def validateMessageAttachmentReference (reference : AttachmentReference)
    (jobId userId : String) : Except ApiError AttachmentReference := do
  let allowedExtensions ← supportedExtensions reference.contentType
  checkAttachmentSize reference.size
  guardThat (reference.key.startsWith (attachmentPrefix userId jobId) = true)
    (.badRequest "Attachment key is not bound to this job")
  let extension := toLowerCase (((splitAtLast? '.' reference.key).map Prod.snd).getD reference.key)
  guardThat (extension ∈ allowedExtensions)
    (.badRequest "Attachment key extension does not match content type")
  guardThat (isAbsoluteUrl reference.url = true)
    (.badRequest "Attachment URL must be absolute")
  pure reference

end Tchuno.Contact
