/-!
# Faults in compressed data

What is wrong with data that cannot be decompressed, and its wording.
-/
namespace Bearer.Deflate

/-- What is wrong with compressed data. -/
inductive Fault where
  /-- It does not start as it should. -/
  | header
  /-- It is compressed in a way that is not known. -/
  | method
  /-- It would need a longer window. -/
  | window
  /-- It has flags that are not known. -/
  | flags
  /-- The sum of the header is wrong. -/
  | headerSum
  /-- It needs a dictionary. -/
  | dictionary
  /-- A block is of no known type. -/
  | blockType
  /-- The two lengths of a stored block do not agree. -/
  | storedLength
  /-- A block has too many symbols. -/
  | tooMany
  /-- The code for lengths is none. -/
  | lengthCode
  /-- A length is repeated that is not there, or too often. -/
  | repetition
  /-- A block has no symbol for its end. -/
  | noEnd
  /-- The code for bytes and lengths of copies is none. -/
  | literalCode
  /-- The code for distances is none. -/
  | distanceCode
  /-- Bits stand for no byte and no length. -/
  | literal
  /-- Bits stand for no distance. -/
  | distance
  /-- A copy starts in front of the text. -/
  | tooFar
  /-- The sum of the text is wrong. -/
  | dataSum
  /-- The length of the text is wrong. -/
  | lengthSum
deriving DecidableEq, Repr

/-- What is said about a fault in particular; nothing about a dictionary. -/
def Fault.detail? : Fault → Option String
  | .header => some "incorrect header check"
  | .method => some "unknown compression method"
  | .window => some "invalid window size"
  | .flags => some "unknown header flags set"
  | .headerSum => some "header crc mismatch"
  | .dictionary => none
  | .blockType => some "invalid block type"
  | .storedLength => some "invalid stored block lengths"
  | .tooMany => some "too many length or distance symbols"
  | .lengthCode => some "invalid code lengths set"
  | .repetition => some "invalid bit length repeat"
  | .noEnd => some "invalid code -- missing end-of-block"
  | .literalCode => some "invalid literal/lengths set"
  | .distanceCode => some "invalid distances set"
  | .literal => some "invalid literal/length code"
  | .distance => some "invalid distance code"
  | .tooFar => some "invalid distance too far back"
  | .dataSum => some "incorrect data check"
  | .lengthSum => some "incorrect length check"

/-- The wording of a fault. -/
def Fault.message (f : Fault) : String :=
  match f.detail? with
  | some detail => "Error -3 while decompressing data: " ++ detail
  | none => "Error 2 while decompressing data"

end Bearer.Deflate
