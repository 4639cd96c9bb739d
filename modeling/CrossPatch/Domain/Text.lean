import CrossPatch.Domain.Failure
import CrossPatch.Library.Octets

/-!
# Text

Unicode normalization is taken from the tables of the interpreter, with the
documented facts that the code relies on.  The identifier and digest patterns
are written out over characters.
-/

namespace CrossPatch.Domain.Text

open CrossPatch.Domain.Failure CrossPatch.Library.Octets

def isAscii (text : String) : Bool := text.toList.all fun character => character.toNat < 128

/-- The normalization forms of the Unicode database: canonical form keeps ASCII text and
is reached in one step, and text in compatibility form is also in it. -/
structure UnicodeTables where
  nfc : String → String
  nfkc : String → String
  nfc_ascii : ∀ text, isAscii text = true → nfc text = text
  nfc_nfc : ∀ text, nfc (nfc text) = nfc text
  nfc_of_nfkc : ∀ text, nfkc text = text → nfc text = text

/-- Tables of an interpreter that only ever sees ASCII text. -/
def UnicodeTables.asciiOnly : UnicodeTables where
  nfc := id
  nfkc := id
  nfc_ascii _ _ := rfl
  nfc_nfc _ := rfl
  nfc_of_nfkc _ _ := rfl

/-! ## Patterns -/

/-- Characters for which `str.isspace` holds. -/
def isSpace (character : Char) : Bool :=
  let code := character.toNat
  (9 ≤ code && code ≤ 13) || (28 ≤ code && code ≤ 32) || code == 0x85 || code == 0xa0 ||
    code == 0x1680 || (0x2000 ≤ code && code ≤ 0x200a) || code == 0x2028 || code == 0x2029 ||
    code == 0x202f || code == 0x205f || code == 0x3000

def isLowerHex (character : Char) : Bool := hexDigits.contains character

def isIdentifierHead (character : Char) : Bool :=
  ('A' ≤ character ∧ character ≤ 'Z') ∨ ('a' ≤ character ∧ character ≤ 'z') ∨
    ('0' ≤ character ∧ character ≤ '9')

def isIdentifierTail (character : Char) : Bool :=
  isIdentifierHead character || ['.', '_', ':', '-'].contains character

/-- The pattern `[0-9a-f]{64}`. -/
def isSha256 (text : String) : Bool :=
  text.toList.length == 64 && text.toList.all isLowerHex

/-- The pattern `[0-9a-f]{40}(?:[0-9a-f]{24})?`. -/
def isGitSha (text : String) : Bool :=
  (text.toList.length == 40 || text.toList.length == 64) && text.toList.all isLowerHex

/-- The pattern `[A-Za-z0-9][A-Za-z0-9._:-]{0,127}`. -/
def isIdentifier (text : String) : Bool :=
  match text.toList with
  | [] => false
  | head :: tail =>
      isIdentifierHead head && tail.all isIdentifierTail && tail.length ≤ 127

theorem isLowerHex_ascii : ∀ {character : Char}, isLowerHex character = true →
    character.toNat < 128 := by
  intro character listed
  have all : hexDigits.all (fun digit => digit.toNat < 128) = true := by decide
  exact of_decide_eq_true (List.all_eq_true.mp all character (List.contains_iff_mem.mp listed))

theorem isIdentifierHead_ascii {character : Char} (head : isIdentifierHead character = true) :
    character.toNat < 128 := by
  simp only [isIdentifierHead, Char.le_def, decide_eq_true_eq] at head
  have upper (bound : Char) (small : bound.val ≤ 'z'.val) (below : character.val ≤ bound.val) :
      character.toNat < 128 := by
    have chained : character.val.toNat ≤ 'z'.val.toNat := UInt32.le_iff_toNat_le.mp
      (UInt32.le_trans below small)
    exact Nat.lt_of_le_of_lt chained (by decide)
  rcases head with ⟨_, below⟩ | ⟨_, below⟩ | ⟨_, below⟩
  · exact upper 'Z' (by decide) below
  · exact upper 'z' (by decide) below
  · exact upper '9' (by decide) below

theorem isIdentifierTail_ascii {character : Char} (tail : isIdentifierTail character = true) :
    character.toNat < 128 := by
  rw [isIdentifierTail, Bool.or_eq_true] at tail
  rcases tail with head | listed
  · exact isIdentifierHead_ascii head
  · have all : ['.', '_', ':', '-'].all (fun mark => mark.toNat < 128) = true := by decide
    exact of_decide_eq_true (List.all_eq_true.mp all character (List.contains_iff_mem.mp listed))

theorem isAscii_of_forall {text : String}
    (plain : ∀ character ∈ text.toList, character.toNat < 128) : isAscii text = true := by
  rw [isAscii, List.all_eq_true]
  exact fun character member => decide_eq_true (plain character member)

theorem isSha256_ascii {text : String} (digest : isSha256 text = true) :
    isAscii text = true := by
  rw [isSha256, Bool.and_eq_true, List.all_eq_true] at digest
  exact isAscii_of_forall fun character member => isLowerHex_ascii (digest.2 character member)

theorem isGitSha_ascii {text : String} (commit : isGitSha text = true) :
    isAscii text = true := by
  rw [isGitSha, Bool.and_eq_true, List.all_eq_true] at commit
  exact isAscii_of_forall fun character member => isLowerHex_ascii (commit.2 character member)

theorem isIdentifier_ascii {text : String} (identifier : isIdentifier text = true) :
    isAscii text = true := by
  apply isAscii_of_forall
  intro character member
  unfold isIdentifier at identifier
  cases characters : text.toList with
  | nil => rw [characters] at member; cases member
  | cons head tail =>
      rw [characters] at identifier member
      simp only [Bool.and_eq_true, List.all_eq_true] at identifier
      rcases List.mem_cons.mp member with rfl | inside
      · exact isIdentifierHead_ascii identifier.1.1
      · exact isIdentifierTail_ascii (identifier.1.2 character inside)

/-! ## Constant-time comparison -/

/-- `hmac.compare_digest` on text: only ASCII text is comparable. -/
def compareDigest (left right : String) : Attempt Bool :=
  if isAscii left && isAscii right then .ok (left == right)
  else raise .typeError "comparing strings with non-ASCII characters is not supported"

/-- `_same`: comparison of the encoded bytes. -/
def same (left right : String) : Bool := utf8 left == utf8 right

theorem compareDigest_eq_ok_true {left right : String} :
    compareDigest left right = .ok true ↔ isAscii left = true ∧ left = right := by
  unfold compareDigest
  split
  · rename_i ascii
    rw [Bool.and_eq_true] at ascii
    simp [ascii.1]
  · rename_i ascii
    simp only [raise, reduceCtorEq, false_iff, not_and]
    rintro first rfl
    exact ascii (by rw [first]; rfl)

@[simp]
theorem same_eq_true {left right : String} : same left right = true ↔ left = right := by
  simp [same]

end CrossPatch.Domain.Text
