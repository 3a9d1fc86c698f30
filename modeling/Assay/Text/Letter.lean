import Assay.Text.Case
import Assay.Text.Wide

/-! # Classes of characters -/

namespace Assay.Text

namespace Letter

def letterRanges : List (Nat × Nat) :=
  rangesOf
    ("GobkbebfxbBfbRqemofhbbbDibBqfbibbgbbEgbFjiIagBpBnobbbcbcbBsBdlfCebreDybieieqcbqBwnGcjcebfy" ++
    "cttzhBobgrBqkmdhgCybqbdepckbCvdqbBkkbeCfepeBllCfdqdBgjeeCfdqjBabbqCxdBgqCgdqiBbqebCbdqiDyc" ++
    "qbbfehrkCziBlnCgfhgbckBnCfbmgbcBxBfkwCqeCbCpCdbbcpgDacDnbXjBlqqDqdXwcrbBafCxdBmlvmEmctobeb" ++
    "dkBmLlnFsBmBceClculBanbxclEabpbvBmBqcCgbloCdjCkcCmBpebgbcdHqBnolRdbbdldmenflEmbnbqnDxbebck" ++
    "bbdfgbbbbbbeblceffebrBpBFhCaCRuIvgedcmEiqEyBvbSbdzjhfcfeDigdbDmbFrrBgBwqTsJToCmBGUfCpBucKj" ++
    "dDrfidEjBnjcDzcEtbBhyCamCqbbkkygdbbBufBjnDfbmplgEsgxdCrbbbBccqcelDmbogEtfQRsMNcVhbFgBhNzsE" ++
    "qBomEmFltkhBagBalEpBjJrCrCbKhDdBvBgnEjcBwbPnmBCokxjBfCnwkwkBaCsCegcCmCcBqBddBdBjibBcBbCckw" ++
    "ktnsEgJjnCgMoBtdcDaBdkBfBqsBuvBbDyBgkbfkCfjbnDvdkeBvdCwbejnbbBjCbcbgEdhCfhCwdqduGaCobdbefk" ++
    "fDvccbJozDzbbdwBmCccbhEdfkgJpDzCwvCkcenFobbbDcckrCufbsCvKdClbbpkyIabbcDdbNnjCnpDtDbBRrrEIr" ++
    "pBPgrgFYvOOggEwsBwqemkjBErEyIsbbmBDAwebIWfBBdbzbBfbzbBfbzbBfbzbBfbzbCiCQyVlkyMjBesBsekScBc" ++
    "eBLtChCqdbdpBTuHgYeBagBagBaDYkEIAa")

def blankRanges : List (Nat × Nat) :=
  [(0x1680, 0x1680), (0x2000, 0x2006), (0x2008, 0x200A), (0x205F, 0x205F), (0x3000, 0x3000)]

def breakRanges : List (Nat × Nat) := [(0x2028, 0x2029)]

def isBasic (c : Char) : Bool := c < '\x80'

def isOctet (c : Char) : Bool := Raw.rawBase ≤ c.toNat

def isLetter (c : Char) : Bool := if isBasic c then c.isAlpha else inRanges letterRanges c.toNat

def isUpper (c : Char) : Bool :=
  if isBasic c then c.isUpper else Case.lowerRuns.any (·.contains c.toNat)

def isLower (c : Char) : Bool :=
  if isBasic c then c.isLower
  else inRanges Case.casedRanges c.toNat && !isUpper c

def toLower (c : Char) : Char :=
  if isBasic c then c.toLower
  else
    match Case.lowerRuns.find? (·.contains c.toNat) with
    | some run => Char.ofNat (c.toNat + run.distance).toNat
    | none => if c = '\u0130' then 'i' else c

def otherUppers : List (Nat × Nat) :=
  [(0xB5, 0x39C), (0xDF, 0xDF), (0x131, 0x49), (0x17F, 0x53), (0x3C2, 0x3A3), (0x3D0, 0x392),
    (0x3D1, 0x398), (0x3D5, 0x3A6), (0x3D6, 0x3A0), (0x3F0, 0x39A), (0x3F1, 0x3A1), (0x3F5, 0x395)]

def toUpper (c : Char) : Char :=
  if isBasic c then c.toUpper
  else
    match otherUppers.lookup c.toNat with
    | some n => Char.ofNat n
    | none =>
      let isOf (run : Case.Run) : Bool :=
        let n : Int := c.toNat - run.distance
        0 ≤ n && run.contains n.toNat
      match Case.lowerRuns.find? isOf with
      | some run => Char.ofNat (c.toNat - run.distance).toNat
      | none => c

end Letter

inductive CharClass where
  | alnum | alpha | blank | cntrl | digit | graph | lower | print | punct | space | upper | xdigit
  deriving DecidableEq

namespace CharClass

open Letter

def name : CharClass → String
  | .alnum => "alnum"
  | .alpha => "alpha"
  | .blank => "blank"
  | .cntrl => "cntrl"
  | .digit => "digit"
  | .graph => "graph"
  | .lower => "lower"
  | .print => "print"
  | .punct => "punct"
  | .space => "space"
  | .upper => "upper"
  | .xdigit => "xdigit"

def all : List CharClass :=
  [.alnum, .alpha, .blank, .cntrl, .digit, .graph, .lower, .print, .punct, .space, .upper, .xdigit]

def ofName? (name : List Char) : Option CharClass := all.find? (·.name.toList = name)

def containsFar (kind : CharClass) (c : Char) : Bool :=
  if isOctet c then false
  else
    match kind with
    | .alnum | .alpha => isLetter c
    | .blank => inRanges blankRanges c.toNat
    | .cntrl => c < '\xa0' || inRanges breakRanges c.toNat
    | .digit | .xdigit => false
    | .graph => isShown c && !inRanges blankRanges c.toNat
    | .lower => isLower c
    | .print => isShown c
    | .punct => isShown c && !inRanges blankRanges c.toNat && !isLetter c
    | .space => inRanges blankRanges c.toNat || inRanges breakRanges c.toNat
    | .upper => isUpper c

def contains (kind : CharClass) (c : Char) : Bool :=
  if !isBasic c then kind.containsFar c
  else
    match kind with
    | .alnum => c.isAlphanum
    | .alpha => c.isAlpha
    | .blank => c = ' ' || c = '\t'
    | .cntrl => c < ' ' || c = '\x7f'
    | .digit => c.isDigit
    | .graph => '!' ≤ c && c ≤ '~'
    | .lower => c.isLower
    | .print => ' ' ≤ c && c ≤ '~'
    | .punct => '!' ≤ c && c ≤ '~' && !c.isAlphanum
    | .space => c = ' ' || ('\t' ≤ c && c ≤ '\r')
    | .upper => c.isUpper
    | .xdigit => c.isDigit || ('a' ≤ c && c ≤ 'f') || ('A' ≤ c && c ≤ 'F')

end CharClass

/-! ## Widths -/

namespace Letter

def wideRanges : List (Nat × Nat) :=
  rangesOf
    ("GLkDsGSocncHiedbcbUbcvcBymBrbtbnbicrcfcibfbvbhcbbebcbhbecBcbBjbbbedbbCjdybobBHbcBzbebBFeQk" ++
    "ercDieBRZwBThBdYtQNsMQmSgBFqkwCiFtDsExhBQKnemZKeXCybHubHibckDxLdmjbCsbwmBrefmrdbdCtbbbHfcC" ++
    "lnebysbBacnbDiDhBwCsgbddcllchjItrKxBvbkbHdEiFhBXnEGMa")

def flatRanges : List (Nat × Nat) :=
  rangesOf
    ("BDoEiKphKdBtbbbcbcbbCulbbBuvqbDxhcgccbeBjbBeBbDnlCgjjbyebjbdbfBrdCiiBqybBgCdbbbeiebdhkcBdb" ++
    "CgbeeibucBafCfberBecdblcCfbeiebucwiCgbcbbeiklcBebCjbmbBybdbCdbbdfrlcBdbCgbcbgbfcucBccCfcee" ++
    "ibucBdbCubhfDmbchmiDubcjlhCvcBbbbbbbCdobfbcfBwjbDyebgbccczcedqenbccgbpbHmGeNldBKkdBdcBecBe" ++
    "cCmcbhibcljbBtfEncBibEodecjbgdIlccbCgbbjbbcignBwDgBwbbfbbfbBojmcBgeccbdCebbcdbbdCgiccFwdbn" ++
    "bhebgbdcHqCmUdfBafBxqDsBhEOcdFlbDsBgVieEdcBSQeebkBgcDccKmbdbebzcfbFvcBasnbBmizlBudBwbceccB" ++
    "nbCpgccccmbibBvbBzbbdccfcbbBqcibJebcbebQOwCyNHybBCjqqqHzbJpdTtbIsbFtfCMgpBoiGjcWbeOxcDcdCs" ++
    "lBxeEtbCcpBpbcckdBxecchbCjdBkfbiCkbmcCajkecbDrdcbbcgbcbGbbdivcCfcdbBlpHnicdbbxbDggbbecbcJe" ++
    "egcbcBbcDhicbbcEcbbbcgbbDxdcebfJzjbcJwcbbebFoiebBgkBogceibjgcdBunbcPqobbDewchbcbcEsvbbCucd" ++
    "bbbNjclcCaffbbbHYbrgpURqfChhBOibCleDdbBDBkcbHBrUydjqchBeeFsdCYdCdeByibobwvCAiBrDwbGehOlbCj" ++
    "eToeBMehEfhBTBZaTb")

def width? (c : Char) : Option Nat :=
  let code := c.toNat
  if code < 0x80 then if ' ' ≤ c && c ≤ '~' then some 1 else none
  else if isOctet c then none
  else if code < 0x300 then if isShown c then some 1 else none
  else if inRanges wideRanges code then some 2
  else if inRanges flatRanges code then some 0
  else if isShown c then some 1
  else none

def widthOf (cs : List Char) : Nat := cs.foldl (fun sum c => sum + (width? c).getD 0) 0

end Letter

end Assay.Text
