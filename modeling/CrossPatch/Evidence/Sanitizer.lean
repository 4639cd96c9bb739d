import CrossPatch.Domain.Text
import CrossPatch.Library.Base64
import CrossPatch.Library.Decoding
import CrossPatch.Library.Pattern
import CrossPatch.Library.Sha256

/-!
# Sanitizing evidence

`sanitize_evidence` turns untrusted bytes into text for a model: it cuts them to size,
marks what it takes out, and records a tag for every byte range that it does not
reproduce.  Texts are lists of characters here, as they are taken apart on every line.
-/

namespace CrossPatch.Evidence.Sanitizer

open CrossPatch.Domain.Failure CrossPatch.Domain.Text
open CrossPatch.Library CrossPatch.Library.Attempt CrossPatch.Library.Decoding
open CrossPatch.Library.Octets CrossPatch.Library.Pattern CrossPatch.Library.Sha256

def maxEvidenceBytes : Nat := 256 * 1024

def maxEvidenceLines : Nat := 2000

def maxLineCharacters : Nat := 4096

def maxProvenanceCharacters : Nat := 512

inductive TagKind where
  | potentialInstructionRedacted
  | secretRedacted
  | controlSequenceRemoved
  | invalidUtf8Replaced
  | lineTruncated
  | evidenceTruncated
deriving DecidableEq

/-- The Unicode tables, with the characters for which `str.isalnum` holds.  Line ends are
normal and do not combine with the text before them. -/
structure TextTables extends UnicodeTables where
  isAlphanumeric : Char → Bool
  nfkc_lineEnd : ∀ (text : String) (lineEnd : Char), lineEnd = '\n' ∨ lineEnd = '\r' →
    nfkc (text.push lineEnd) = (nfkc text).push lineEnd

/-! ## Patterns -/

/-- Letters are compared without their case, as `re.IGNORECASE` does. -/
def foldCase (character : Char) : Char :=
  if 'A' ≤ character ∧ character ≤ 'Z' then Char.ofNat (character.toNat + 32)
  else if character.toNat = 0x130 ∨ character.toNat = 0x131 then 'i'
  else if character.toNat = 0x17f then 's'
  else if character.toNat = 0x212a then 'k'
  else character

def letter (expected : Char) : Pattern := .char fun character => foldCase character == expected

/-- A word in lower case, matched without regard to case. -/
def word (text : String) : Pattern := .sequences (text.toList.map letter)

def anyOf (texts : List String) : Pattern := .choices (texts.map word)

def exactly (text : String) : Pattern :=
  .sequences (text.toList.map fun expected => .char fun character => character == expected)

def oneOf (characters : List Char) : Pattern := .char characters.contains

def spaces : Pattern := .many isSpace 0 none true

def blanks : Pattern := .many isSpace 1 none true

/-- `(?:the\s+)?` and the like. -/
def perhaps (text : String) : Pattern := .optional (.sequence (word text) blanks)

section Patterns

variable (tables : TextTables)

def isWordCharacter (character : Char) : Bool := tables.isAlphanumeric character || character == '_'

def edge : Pattern := .boundary (isWordCharacter tables)

def roles : Pattern := anyOf ["system", "developer", "assistant", "tool"]

def startOrSpace : Pattern := .choice .start (.char isSpace)

/-- `_INSTRUCTION_PATTERNS`. -/
def instructionPatterns : List Pattern :=
  [.sequences [startOrSpace, exactly "[", roles, exactly "]", .choice (.char isSpace) .finish],
    .sequences [startOrSpace, .many (· == '#') 1 (some 6) true, spaces, roles, edge tables],
    .sequences [exactly "<|", spaces, roles, spaces, exactly "|>"],
    .sequences [edge tables, word "ignore", blanks, perhaps "all",
      anyOf ["previous", "prior", "above"], blanks, word "instruction", .optional (letter 's'),
      edge tables],
    .sequences [edge tables, anyOf ["reveal", "print", "return", "expose"], blanks, perhaps "the",
      anyOf ["system", "developer"], blanks, word "prompt", edge tables],
    .sequences [edge tables, anyOf ["execute", "run", "invoke", "call"], blanks, perhaps "the",
      anyOf ["shell", "command", "tool", "function"], edge tables],
    .sequences [edge tables, anyOf ["override", "disregard", "bypass"], blanks, perhaps "the",
      .choices [word "policy", word "guardrail", .sequence (word "instruction") (.optional (letter 's'))],
      edge tables],
    .sequences [edge tables, word "you", blanks, word "are", blanks, perhaps "now",
      .choices [word "chatgpt",
        .sequences [letter 'a', .optional (letter 'n'), blanks, word "assistant"],
        .sequences [word "the", blanks, word "system"]],
      edge tables],
    .sequences [edge tables, word "you", blanks, word "must", blanks,
      anyOf ["approve", "clear", "execute", "ignore", "reveal", "return"], edge tables],
    .sequences [edge tables, word "follow", blanks, anyOf ["these", "the"], blanks, word "new", blanks,
      anyOf ["directions", "instructions"], edge tables],
    .sequences [edge tables, word "do", blanks, word "not", blanks, word "follow", blanks,
      perhaps "the", word "developer", blanks, anyOf ["message", "instructions"], edge tables],
    .sequences [edge tables, word "obey", blanks, anyOf ["this", "the"], blanks,
      anyOf ["log", "message", "evidence"], edge tables],
    .sequences [edge tables, anyOf ["call", "invoke", "run"], blanks, word "execute_warrant",
      edge tables]]

/-- `_XML_CONTROL`. -/
def xmlControl : Pattern :=
  .sequences [exactly "<", spaces, .optional (exactly "/"), spaces,
    .choices [.sequence (word "tool") (.optional (word "_call")),
      .sequence (word "function") (.optional (word "_call")), word "system", word "assistant",
      word "developer", word "instruction", word "command"],
    edge tables]

def isTokenCharacter (character : Char) : Bool :=
  ('A' ≤ character && character ≤ 'Z') || ('a' ≤ character && character ≤ 'z') ||
    ('0' ≤ character && character ≤ '9') || ['+', '/', '_', '-'].contains character

/-- `_BASE64_TOKEN`. -/
def base64Token : Pattern :=
  .sequences [.notAfter isTokenCharacter, .many isTokenCharacter 16 none true,
    .many (· == '=') 0 (some 2) true,
    .notBefore fun character => isTokenCharacter character || character == '=']

/-- `[^\s,;]+`. -/
def plainValue : Pattern :=
  .many (fun character => !(isSpace character || character == ',' || character == ';')) 1 none true

/-- `_AUTHORIZATION`. -/
def authorization : Pattern :=
  .sequences [edge tables, word "authorization", spaces, exactly ":", spaces,
    anyOf ["bearer", "basic"], blanks, plainValue]

/-- `_OPENAI_KEY`. -/
def openaiKey : Pattern :=
  .sequences [edge tables, exactly "sk-",
    .many (fun character => ('A' ≤ character && character ≤ 'Z') ||
      ('a' ≤ character && character ≤ 'z') || ('0' ≤ character && character ≤ '9') ||
      ['.', '_', '-'].contains character) 6 none true]

/-- Two words with an optional `_` or `-` between them. -/
def compound (first second : String) : Pattern :=
  .sequences [word first, .optional (oneOf ['_', '-']), word second]

/-- `_SECRET_FIELD_NAMES`. -/
def secretFieldNames : Pattern :=
  .choices [compound "api" "key", compound "access" "token", word "token", word "password",
    word "passwd", word "secret", word "credential", compound "private" "key",
    compound "signing" "key"]

/-- `_JSON_NAMED_SECRET`. -/
def jsonNamedSecret : Pattern :=
  .sequences [
    .group "prefix" (.sequences [oneOf ['"', '\''], secretFieldNames, oneOf ['"', '\''], spaces,
      exactly ":", spaces]),
    .group "quote" (oneOf ['"', '\'']),
    .group "value" (.many (· != '\n') 0 none false),
    .reference "quote"]

/-- `_NAMED_SECRET`. -/
def namedSecret : Pattern :=
  .sequences [edge tables, .group "1" secretFieldNames, spaces, .group "2" (oneOf [':', '=']),
    spaces, .group "3" plainValue]

/-- `_PEM_PRIVATE_KEY_BEGIN`. -/
def pemPrivateKeyBegin : Pattern :=
  .sequences [word "-----begin ",
    .group "label" (.sequence
      (.optional (.sequence (anyOf ["encrypted", "rsa", "ec", "dsa", "openssh"]) (exactly " ")))
      (word "private key")),
    exactly "-----"]

/-- The end of a block with the given label. -/
def pemPrivateKeyEnd (label : List Char) : Pattern :=
  .sequences [word "-----end ",
    .sequences (label.map fun expected => letter (foldCase expected)), exactly "-----"]

/-! ## Lines -/

def formatControls : List Nat :=
  [0x061c, 0x180e, 0x200b, 0x200c, 0x200d, 0x200e, 0x200f, 0x202a, 0x202b, 0x202c, 0x202d, 0x202e,
    0x2060, 0x2066, 0x2067, 0x2068, 0x2069, 0xfeff]

/-- The category `Cc`. -/
def isControl (character : Char) : Bool :=
  character.toNat < 32 || (127 ≤ character.toNat && character.toNat < 160)

def isStripped (character : Char) : Bool :=
  formatControls.contains character.toNat || (isControl character && character != '\t')

def normalize (value : List Char) : List Char := (tables.nfkc (String.ofList value)).toList

def stripFormatControls (value : List Char) : List Char × Bool :=
  let stripped := (normalize tables value).filter fun character => !isStripped character
  (stripped, stripped != normalize tables value)

def splitLineEnding (value : List Char) : List Char × List Char :=
  if ['\r', '\n'].isSuffixOf value then (value.dropLast.dropLast, ['\n'])
  else if value.getLast? = some '\n' ∨ value.getLast? = some '\r' then (value.dropLast, ['\n'])
  else (value, [])

/-- `bytes.splitlines(keepends=True)`. -/
def splitLines : Bytes → List Bytes
  | [] => []
  | 13 :: 10 :: rest => [13, 10] :: splitLines rest
  | byte :: rest =>
      if byte = 10 ∨ byte = 13 then [byte] :: splitLines rest
      else
        match splitLines rest with
        | [] => [[byte]]
        | line :: others => (byte :: line) :: others

def contentOf (raw : Bytes) : List Char := (splitLineEnding (decodeReplacing raw)).1

def newlineOf (raw : Bytes) : List Char := (splitLineEnding (decodeReplacing raw)).2

/-- The content of a line as it is scanned and emitted. -/
def scanned (raw : Bytes) : List Char := (stripFormatControls tables (contentOf raw)).1

def controlsRemoved (raw : Bytes) : Bool := (stripFormatControls tables (contentOf raw)).2

/-! ## Instructions -/

def finds (pattern : Pattern) (text : List Char) : Bool := (search pattern none text).isSome

def decodedTokenContainsInstruction (token : List Char) : Bool :=
  let padded := token ++ List.replicate ((4 - token.length % 4) % 4) '='
  let plain := padded.map fun character =>
    if character = '-' then '+' else if character = '_' then '/' else character
  match Base64.decode plain with
  | none => false
  | some decoded =>
      if decoded = [] ∨ maxLineCharacters * 4 < decoded.length then false
      else
        let normalized := (stripFormatControls tables (decodeIgnoring decoded)).1
        finds (xmlControl tables) normalized || (instructionPatterns tables).any (finds · normalized)

/-- Underscores and hyphens read as spaces. -/
def spacedView (value : List Char) : List Char :=
  value.map fun character => if character = '_' ∨ character = '-' then ' ' else character

def slice (value : List Char) (span : Span) : List Char :=
  (value.drop span.start).take (span.stop - span.start)

def instructionMatchSpans (value : List Char) : List Span :=
  spans (xmlControl tables) value ++
    ([value, spacedView value].flatMap fun candidate =>
      (instructionPatterns tables).flatMap fun pattern => spans pattern candidate) ++
    (spans base64Token value).filter fun span =>
      decodedTokenContainsInstruction tables (slice value span)

/-- Where the contents stand in the scanned text, which has a line feed behind each. -/
def contentSpans (cursor : Nat) : List (List Char) → List Span
  | [] => []
  | content :: rest =>
      ⟨cursor, cursor + content.length⟩ :: contentSpans (cursor + content.length + 1) rest

def overlaps (line found : Span) : Bool :=
  line.start < line.stop && line.start < found.stop && found.start < line.stop

/-- For each line, whether it is one of the `instruction_lines`. -/
def instructionLines (lines : List Bytes) : List Bool :=
  let contents := lines.map (scanned tables)
  let found := instructionMatchSpans tables (contents.flatMap (· ++ ['\n']))
  (contentSpans 0 contents).map fun line => found.any (overlaps line)

/-! ## Secrets -/

/-- For each line, whether it is one of the `pem_secret_lines`. -/
def pemSecretLines (activeLabel : Option (List Char)) : List Bytes → List Bool
  | [] => []
  | raw :: rest =>
      let normalized := (stripFormatControls tables (decodeReplacing raw)).1
      let label := match activeLabel with
        | some label => some label
        | none =>
            (search pemPrivateKeyBegin none normalized).map fun (_, captures) =>
              (captures.lookup "label").getD []
      match label with
      | none => false :: pemSecretLines none rest
      | some label =>
          true :: pemSecretLines
            (if finds (pemPrivateKeyEnd label) normalized then none else some label) rest

def secretMarker : List Char := "[SECRET_REDACTED]".toList

/-- `str.replace` of a non-empty text. -/
def replaceText (secret marker : List Char) (skip : Nat) : List Char → List Char
  | [] => []
  | character :: rest =>
      match skip with
      | skip + 1 => replaceText secret marker skip rest
      | 0 =>
          if secret.isPrefixOf (character :: rest) then
            marker ++ replaceText secret marker (secret.length - 1) rest
          else character :: replaceText secret marker 0 rest

def isInfix (secret : List Char) (text : List Char) : Bool := text.tails.any secret.isPrefixOf

def redactConfigured (state : List Char × Bool) (secret : String) : List Char × Bool :=
  if isInfix secret.toList state.1 then (replaceText secret.toList secretMarker 0 state.1, true)
  else state

def redactSecrets (value : List Char) (configured : List String) : List Char × Bool :=
  let captured (captures : Captures) (name : String) := (captures.lookup name).getD []
  let first := substitute (authorization tables)
    (fun _ => "Authorization: ".toList ++ secretMarker) 0 none value
  let second := substitute (openaiKey tables) (fun _ => secretMarker) 0 none first.1
  let third := substitute jsonNamedSecret (fun captures =>
    captured captures "prefix" ++ captured captures "quote" ++ secretMarker ++
      captured captures "quote") 0 none second.1
  let fourth := substitute (namedSecret tables) (fun captures =>
    captured captures "1" ++ captured captures "2" ++ secretMarker) 0 none third.1
  configured.foldl redactConfigured
    (fourth.1, first.2 || second.2 || third.2 || fourth.2)

/-- `sorted({value for value in secret_values if value}, key=lambda value: (-len(value), value))`. -/
def configuredSecrets (secretValues : List String) : List String :=
  (secretValues.filter (· != "")).dedup.insertionSort fun left right =>
    right.length < left.length ∨ (left.length = right.length ∧ left ≤ right)

/-! ## One line -/

structure PendingTag where
  kind : TagKind
  start : Nat
  stop : Nat
deriving DecidableEq

def rangeText (start stop : Nat) : List Char :=
  " raw_bytes=".toList ++ Nat.toDigits 10 start ++ ':' :: (Nat.toDigits 10 stop ++ [']'])

def instructionMarker (start stop : Nat) : List Char :=
  "[POTENTIAL_INSTRUCTION_REDACTED".toList ++ rangeText start stop

def lineMarker (start stop : Nat) : List Char := "[LINE_TRUNCATED".toList ++ rangeText start stop

def evidenceMarker (start stop : Nat) : List Char :=
  "[EVIDENCE_TRUNCATED".toList ++ rangeText start stop

/-- The text before the first marker of a private key. -/
def textBeforeKey (normalized : List Char) : List Char :=
  match search pemPrivateKeyBegin none normalized with
  | some (before, _) => normalized.take before
  | none => []

/-- The tags for what decoding and stripping have changed. -/
def decodingTags (start stop : Nat) (raw : Bytes) : List PendingTag :=
  (if replacement ∈ contentOf raw then [⟨.invalidUtf8Replaced, start, stop⟩] else []) ++
    if controlsRemoved tables raw then [⟨.controlSequenceRemoved, start, stop⟩] else []

def sanitizeLine (configured : List String) (isSecret isInstruction : Bool) (start : Nat)
    (raw : Bytes) : List Char × List PendingTag :=
  let stop := start + raw.length
  let tags := decodingTags tables start stop raw
  if isSecret then
    (textBeforeKey (scanned tables raw) ++ secretMarker ++ newlineOf raw,
      tags ++ [⟨.secretRedacted, start, stop⟩])
  else if controlsRemoved tables raw || isInstruction then
    (instructionMarker start stop ++ newlineOf raw,
      tags ++ [⟨.potentialInstructionRedacted, start, stop⟩])
  else
    let (sanitized, secretFound) := redactSecrets tables (scanned tables raw) configured
    let tags := tags ++ if secretFound then [⟨.secretRedacted, start, stop⟩] else []
    if maxLineCharacters < sanitized.length then
      (sanitized.take maxLineCharacters ++ lineMarker start stop ++ newlineOf raw,
        tags ++ [⟨.lineTruncated, start, stop⟩])
    else (sanitized ++ newlineOf raw, tags)

/-- A line with what was found out about it. -/
structure Flagged where
  raw : Bytes
  isSecret : Bool
  isInstruction : Bool

def sanitizeLines (configured : List String) (offset : Nat) :
    List Flagged → List (List Char × List PendingTag)
  | [] => []
  | line :: rest =>
      sanitizeLine tables configured line.isSecret line.isInstruction offset line.raw ::
        sanitizeLines configured (offset + line.raw.length) rest

/-! ## The evidence -/

/-- The lines that are kept, and where the rest was cut off. -/
structure Kept where
  lines : List Bytes
  truncatedAt : Option Nat

def earliest (cut : Option Nat) (lineBoundary : Nat) : Nat :=
  match cut with
  | none => lineBoundary
  | some cut => min cut lineBoundary

def keep (raw : Bytes) : Kept :=
  let limited := raw.take maxEvidenceBytes
  let cut := if limited.length < raw.length then some limited.length else none
  let lines := splitLines limited
  if maxEvidenceLines - 1 < lines.length then
    let kept := lines.take (maxEvidenceLines - 1)
    let lineBoundary := (kept.map List.length).sum
    ⟨kept, some (earliest cut lineBoundary)⟩
  else ⟨lines, cut⟩

def flag (lines : List Bytes) : List Flagged :=
  List.zipWith (fun raw (flags : Bool × Bool) => ⟨raw, flags.1, flags.2⟩) lines
    ((pemSecretLines tables none lines).zip (instructionLines tables lines))

/-- The emitted lines, each with its tags. -/
def emitted (raw : Bytes) (secretValues : List String) : List (List Char × List PendingTag) :=
  sanitizeLines tables (configuredSecrets secretValues) 0 (flag tables (keep raw).lines)

/-- What is emitted behind the lines. -/
def closing (raw : Bytes) : List Char × List PendingTag :=
  match (keep raw).truncatedAt with
  | none => ([], [])
  | some truncatedAt =>
      (evidenceMarker truncatedAt raw.length, [⟨.evidenceTruncated, truncatedAt, raw.length⟩])

def sanitizedText (raw : Bytes) (secretValues : List String) : List Char :=
  (emitted tables raw secretValues).flatMap Prod.fst ++ (closing raw).1

def pendingTags (raw : Bytes) (secretValues : List String) : List PendingTag :=
  (emitted tables raw secretValues).flatMap Prod.snd ++ (closing raw).2

def provenanceTruncationMarker : List Char := "[LINE_TRUNCATED field=provenance]".toList

def provenanceRedaction : List Char := "[POTENTIAL_INSTRUCTION_REDACTED field=provenance]".toList

def sanitizeProvenance (provenance : String) (secretValues : List String) :
    List Char × List TagKind :=
  let (normalized, controlsRemoved) := stripFormatControls tables provenance.toList
  let control := if controlsRemoved then [TagKind.controlSequenceRemoved] else []
  if controlsRemoved || (instructionMatchSpans tables normalized) != [] then
    (provenanceRedaction, control ++ [.potentialInstructionRedacted])
  else
    let (sanitized, secretFound) :=
      redactSecrets tables normalized (configuredSecrets secretValues)
    let tags := control ++ if secretFound then [TagKind.secretRedacted] else []
    let (sanitized, tags) :=
      if maxProvenanceCharacters < sanitized.length then
        (sanitized.take (maxProvenanceCharacters - provenanceTruncationMarker.length) ++
          provenanceTruncationMarker, tags ++ [TagKind.lineTruncated])
      else (sanitized, tags)
    if sanitized.all isSpace then (provenanceRedaction, tags ++ [.potentialInstructionRedacted])
    else (sanitized, tags)

structure SanitizationTag where
  kind : TagKind
  rawByteStart : Nat
  rawByteEnd : Nat
  rawSha256 : String
  sanitizedSha256 : String

structure SanitizedEvidence where
  provenance : String
  provenanceSha256 : String
  provenanceTags : List TagKind
  text : String
  rawSha256 : String
  sanitizedSha256 : String
  rawSizeBytes : Nat
  sanitizedSizeBytes : Nat
  truncated : Bool
  tags : List SanitizationTag

def sanitizeEvidence (raw : Bytes) (provenance : String) (secretValues : List String) :
    Attempt SanitizedEvidence := do
  require (provenance.toList.all isSpace = false)
    ⟨.valueError, "provenance must be a non-empty string"⟩
  let safeProvenance := sanitizeProvenance tables provenance secretValues
  let text := String.ofList (sanitizedText tables raw secretValues)
  let rawSha256 := hexdigest raw
  let sanitizedSha256 := hexdigest (utf8 text)
  -- The bounds of the field are checked when the record is built.
  require (1 ≤ safeProvenance.1.length ∧ safeProvenance.1.length ≤ maxProvenanceCharacters)
    ⟨.validationError, "provenance"⟩
  .ok {
    provenance := String.ofList safeProvenance.1
    provenanceSha256 := hexdigest (utf8 provenance)
    provenanceTags := safeProvenance.2
    text := text
    rawSha256 := rawSha256
    sanitizedSha256 := sanitizedSha256
    rawSizeBytes := raw.length
    sanitizedSizeBytes := (utf8 text).length
    truncated := (keep raw).truncatedAt.isSome
    tags := (pendingTags tables raw secretValues).map fun tag =>
      ⟨tag.kind, tag.start, tag.stop, rawSha256, sanitizedSha256⟩ }

end Patterns

end CrossPatch.Evidence.Sanitizer
