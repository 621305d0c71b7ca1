import Tchuno.Library.Phrases

/-!
# Messages of errors

`humanizeMessage` divides a message of the API at its commas, translates the parts by a table
or by the form of the validation messages, and joins what it gets.
-/

namespace Tchuno.Web

open Tchuno.Library Tchuno.Library.JsString

/-! ## Tables -/

def humanMessages : List (String × String) :=
  [("Invalid credentials", "Email ou password inválidos."),
    ("Refresh token is required", "Sessão expirada. Faz login novamente."),
    ("Invalid refresh token", "Sessão inválida. Faz login novamente."),
    ("Email is already in use", "Já existe uma conta com este email."),
    ("Only completed jobs can be reviewed", "Só podes avaliar jobs que estejam concluídos."),
    ("This job already has a review", "Este job já foi avaliado."),
    ("Worker profile not found", "Perfil profissional não encontrado."),
    ("Job not found", "Job não encontrado."),
    ("Category not found", "Categoria não encontrada."),
    ("Worker is not currently available", "Este profissional está indisponível neste momento."),
    ("Worker profile is not linked to this category",
      "Este profissional não trabalha nesta categoria."),
    ("Category name or slug already exists", "Já existe uma categoria com este nome ou slug."),
    ("One or more categories are invalid or inactive",
      "Uma ou mais categorias são inválidas ou estão inativas."),
    ("Only the job client can review this job", "Só o cliente do job pode criar review."),
    ("You are not allowed to update this job", "Não tens permissão para atualizar este job."),
    ("You are not allowed to access this job", "Não tens permissão para aceder a este job."),
    ("Notification not found", "Notificação não encontrada."),
    ("You are not allowed to access this notification",
      "Não tens permissão para aceder a esta notificação."),
    ("Conversation participants are not available",
      "Esta conversa ainda não tem participantes válidos."),
    ("Canceled jobs are no longer open for new messages",
      "Este job foi cancelado e já não aceita novas mensagens."),
    ("cancelReason is required when status=CANCELED", "Indica o motivo do cancelamento."),
    ("cancelReason can only be provided when status=CANCELED",
      "O motivo do cancelamento só pode ser enviado quando o estado passa para cancelado."),
    ("Only paid jobs can create refund requests",
      "Só jobs com sinal pago podem abrir pedido de refund ou disputa."),
    ("Only paid payment intents can be refunded",
      "Só pagamentos já confirmados podem ser reembolsados."),
    ("There is already an active refund request for this job",
      "Já existe um pedido de refund ou disputa em aberto para este job."),
    ("This payment has no refundable balance left",
      "Este pagamento já não tem saldo reembolsável disponível."),
    ("Refund request not found", "Pedido de refund não encontrado."),
    ("You are not allowed to cancel this refund request",
      "Não tens permissão para cancelar este pedido de refund."),
    ("Only pending refund requests can be canceled", "Só pedidos pendentes podem ser cancelados."),
    ("Only pending refund requests can be approved", "Só pedidos pendentes podem ser aprovados."),
    ("Only pending refund requests can be rejected", "Só pedidos pendentes podem ser recusados."),
    ("Trust & Safety intervention not found", "Intervenção de Trust & Safety não encontrada."),
    ("You are not allowed to appeal this intervention",
      "Não tens permissão para pedir revisão desta intervenção."),
    ("This intervention cannot be appealed", "Esta intervenção já não pode ser alvo de revisão."),
    ("This intervention is no longer reviewable",
      "Esta intervenção já não está disponível para revisão."),
    ("Unable to generate a valid slug", "Não foi possível gerar um slug válido para a categoria."),
    ("scheduledFor must be in the future", "A data agendada deve ser futura."),
    ("name contains invalid characters",
      "Nome contém caracteres inválidos. Usa apenas letras, números, espaço, _ ou -."),
    ("password must contain at least one letter and one number",
      "Password deve conter pelo menos 1 letra e 1 número.")]

def fieldLabels : List (String × String) :=
  [("email", "Email"),
    ("password", "Password"),
    ("name", "Nome"),
    ("includeInactive", "Incluir inativas"),
    ("categorySlug", "Slug da categoria"),
    ("isAvailable", "Disponibilidade"),
    ("limit", "Limite"),
    ("offset", "Offset"),
    ("status", "Estado"),
    ("sort", "Ordenação"),
    ("workerProfileId", "Profissional"),
    ("categoryId", "Categoria"),
    ("title", "Título"),
    ("description", "Descrição"),
    ("budget", "Orçamento"),
    ("scheduledFor", "Data agendada"),
    ("jobId", "Job"),
    ("rating", "Rating"),
    ("comment", "Comentário"),
    ("content", "Mensagem"),
    ("bio", "Bio"),
    ("location", "Localização"),
    ("serviceAreaPreferences", "Zonas preferidas"),
    ("availabilityStatus", "Disponibilidade"),
    ("hourlyRate", "Tarifa por hora"),
    ("experienceYears", "Anos de experiência"),
    ("categoryIds", "Categorias"),
    ("refreshToken", "Refresh token"),
    ("x-device-id", "Dispositivo")]

/-- The properties which every object inherits, as text. -/
def inheritedProperties : List (String × String) :=
  [("constructor", "function Object() \x7b [native code] \x7d"),
    ("__defineGetter__", "function __defineGetter__() \x7b [native code] \x7d"),
    ("__defineSetter__", "function __defineSetter__() \x7b [native code] \x7d"),
    ("hasOwnProperty", "function hasOwnProperty() \x7b [native code] \x7d"),
    ("__lookupGetter__", "function __lookupGetter__() \x7b [native code] \x7d"),
    ("__lookupSetter__", "function __lookupSetter__() \x7b [native code] \x7d"),
    ("isPrototypeOf", "function isPrototypeOf() \x7b [native code] \x7d"),
    ("propertyIsEnumerable", "function propertyIsEnumerable() \x7b [native code] \x7d"),
    ("toString", "function toString() \x7b [native code] \x7d"),
    ("valueOf", "function valueOf() \x7b [native code] \x7d"),
    ("__proto__", "[object Object]"),
    ("toLocaleString", "function toLocaleString() \x7b [native code] \x7d")]

/-- The value under a key, as text. -/
def textOf? (table : List (String × String)) (key : JsString) : Option JsString :=
  (table.find? fun entry => ofString entry.1 = key).map fun entry => ofString entry.2

/-- `/^property\s+/i` is taken away. -/
def dropPropertyWord (field : JsString) : JsString :=
  match afterPhrase? (ofString "property") field with
  | some rest =>
      if (rest.head?.any isWhiteSpace) then rest.dropWhile isWhiteSpace else field
  | none => field

def humanizeField (field : JsString) : JsString :=
  let normalized := dropPropertyWord field.trim
  ((textOf? fieldLabels normalized).or (textOf? inheritedProperties normalized)).getD normalized

/-- `input.split(",")`, trimmed, without the empty parts. -/
def splitMessageParts (input : JsString) : List JsString :=
  ((input.splitOn 0x2C).map trim).filter fun part => 0 < part.length

/-! ## Validation messages -/

abbrev Translation :=
  JsString → Option JsString

/-- `/^property (.+) should not exist$/i` -/
def unexpectedProperty : Translation := fun message => do
  let rest ← afterPhrase? (ofString "property ") message
  let field ← beforePhrase? (ofString " should not exist") rest
  if isLine field then
    some (ofString "Campo \"" ++ humanizeField field ++ ofString "\" não é permitido.")
  else
    none

/-- `/^(.+) phrase$/i` -/
def fieldPhrase (phrase text : String) : Translation := fun message => do
  let field ← beforePhrase? (ofString phrase) message
  if isLine field then some (humanizeField field ++ ofString text) else none

def isDigit (unit : UInt16) : Bool :=
  0x30 ≤ unit && unit ≤ 0x39

def isDigitOrUnderscore (unit : UInt16) : Bool :=
  isDigit unit || unit = 0x5F

/-- `/^(.+) phrase ([0-9_]+)$/i` -/
def boundPhrase (phrase text : String) : Translation := fun message => do
  let parts := splitRun isDigitOrUnderscore message
  let field ← beforePhrase? (ofString phrase) parts.1
  if isLine field && parts.2 ≠ [] then
    some (humanizeField field ++ ofString text ++ parts.2.filter (fun unit => unit ≠ 0x5F) ++
      ofString ".")
  else
    none

/-- The groups of `/^(.+) phrase ([0-9]+) characters$/i`. -/
def countedCharacters? (phrase : String) (message : JsString) :
    Option (JsString × JsString) := do
  let counted ← beforePhrase? (ofString " characters") message
  let parts := splitRun isDigit counted
  let field ← beforePhrase? (ofString phrase) parts.1
  if isLine field && parts.2 ≠ [] then some (field, parts.2) else none

def lengthPhrase (phrase text : String) : Translation := fun message => do
  let groups ← countedCharacters? phrase message
  some (humanizeField groups.1 ++ ofString text ++ groups.2 ++ ofString " caracteres.")

/-- `/^each value in (.+) must be longer than or equal to ([0-9]+) characters$/i` -/
def eachValueLength : Translation := fun message => do
  let rest ← afterPhrase? (ofString "each value in ") message
  let groups ← countedCharacters? " must be longer than or equal to " rest
  some (ofString "Cada item de " ++ humanizeField groups.1 ++ ofString " deve ter pelo menos " ++
    groups.2 ++ ofString " caracteres.")

/-- `/^(.+) must be one of the following values: (.+)$/i` -/
def allowedValues : Translation := fun message => do
  let groups ← splitAtPhrase? (ofString " must be one of the following values: ") message
  some (humanizeField groups.1 ++ ofString " inválido. Valores aceites: " ++ groups.2 ++
    ofString ".")

/-- `/^(.+) must match .+ regular expression$/i` -/
def expectedPattern : Translation := fun message => do
  let rest ← beforePhrase? (ofString " regular expression") message
  let groups ← splitAtPhrase? (ofString " must match ") rest
  some (humanizeField groups.1 ++ ofString " tem formato inválido.")

/-- `/^Invalid transition from (.+) to (.+)$/i` -/
def invalidTransition : Translation := fun message => do
  let rest ← afterPhrase? (ofString "Invalid transition from ") message
  let groups ← splitAtPhrase? (ofString " to ") rest
  some (ofString "Transição de estado inválida: " ++ groups.1 ++ ofString " -> " ++ groups.2 ++
    ofString ".")

/-- The patterns in the order in which they are tried. -/
def validationTranslations : List Translation :=
  [unexpectedProperty,
    fieldPhrase " should not be empty" " é obrigatório.",
    fieldPhrase " must be a string" " deve ser texto.",
    fieldPhrase " must be an integer number" " deve ser um número inteiro.",
    fieldPhrase " must be a boolean value" " deve ser verdadeiro ou falso.",
    boundPhrase " must not be less than " " deve ser no mínimo ",
    boundPhrase " must not be greater than " " deve ser no máximo ",
    lengthPhrase " must be longer than or equal to " " deve ter pelo menos ",
    lengthPhrase " must be shorter than or equal to " " deve ter no máximo ",
    eachValueLength,
    allowedValues,
    fieldPhrase " must be a valid ISO 8601 date string" " deve ser uma data válida.",
    fieldPhrase " must be a UUID" " tem formato inválido.",
    expectedPattern,
    invalidTransition]

def humanizeValidationMessage (message : JsString) : Option JsString :=
  let trimmed := message.trim
  if trimmed.length = 0 then none
  else validationTranslations.findSome? fun translation => translation trimmed

/-! ## Messages -/

/-- A text, or a property that the table of messages inherits: an object, which is equal to
itself only. -/
inductive HumanMessage where
  | text (content : JsString)
  | inherited (name : JsString)
  deriving DecidableEq

def HumanMessage.toText : HumanMessage → JsString
  | .text content => content
  | .inherited name => (textOf? inheritedProperties name).getD []

def humanizeSingleMessage (input : JsString) : HumanMessage :=
  let trimmed := input.trim
  if trimmed.length = 0 then .text trimmed
  else
    match textOf? humanMessages trimmed with
    | some message => .text message
    | none =>
        if (textOf? inheritedProperties trimmed).isSome then .inherited trimmed
        else .text ((humanizeValidationMessage trimmed).getD trimmed)

/-- `messages.join(" ")` -/
def joinMessages (messages : List HumanMessage) : JsString :=
  [0x20].intercalate (messages.map HumanMessage.toText)

def humanizeMessage (input : JsString) : JsString :=
  let parts := splitMessageParts input
  if parts.length = 0 then input.trim
  else joinMessages (parts.map humanizeSingleMessage).eraseDups

end Tchuno.Web
