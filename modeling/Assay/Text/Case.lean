import Assay.Text.Printable

/-!
# Lower case

The tables are those of Unicode 17.0.
-/

namespace Assay.Text

namespace Case

/-- A run of letters whose lower-case letters lie at the same distance: the first and the last one,
the step between them, and the distance. -/
structure Run where
  (first last step : Nat)
  distance : Int

def Run.contains (run : Run) (n : Nat) : Bool :=
  run.first ≤ n && n ≤ run.last && (n - run.first) % run.step == 0

/-- Runs from a number on, each given by how far it starts from the last letter before it, how far
it reaches, its step, and twice its distance, or one less for one that goes back. -/
def runsFrom (start : Nat) : List Nat → List Run
  | skipped :: reach :: step :: dist :: xs =>
    let first := start + skipped
    { first, last := first + reach, step
      distance := if dist % 2 = 0 then dist / 2 else -(dist + 1 : Int) / 2 }
      :: runsFrom (first + reach) xs
  | _ => []

/-- The letters that have another lower-case form of one letter. -/
def lowerRuns : List Run :=
  runsFrom 0 <| numbersOf
    ("CnzbCmDywbCmcgbCmBiBucceeccdoccdBscccabJhbecceabQebccccabPwbabccbbPubabcdabGcbabPobabPqbab" ++
    "ccabPubabPycabQgbabQcbabceabQgbabQkcabQmbecccabQubabccabQudabccabQubabccbbQsbccccabQwbabce" ++
    "abciabebabccabebabccabebqccdqccdabebccccabHlbabEhbBmcccabJzcqcciabBFYkbabccabMnbabBFYedabc" ++
    "cabOzbabFibabFmbiccLeccceabcjabIyhabCyccbCwcabEycbbEwcqbCmcibCmBkabqjwccgabEpdabccabnbabcd" ++
    "cbJzbpbGebBfbCmBxBgcckCacccabBebmccdDqccdBlbDsEHeBlbVMucabVMugabVMuBBvDbbEKZobfbqDGmabchBq" ++
    "bIXjdcbIXjMjFscckabWNtcDqcckhbpjfbplhbpjhbpjfbpmgcpjhbpzhbpjhbpjhbpjbbpbbbFrbabrmdbGpbabrm" ++
    "bbpbbbHrnbbpbbbIpbabnmbbJvbbbJrbabrLmabWGfeabYUvbabYLnhabCeBupbBguabcBFnzbCaCSvBvbDsBxabcc" ++
    "abBFUjbabLHjbabBFTddecccabBFXfbabBFUvbabBFXlbabBFXjcabcdabcjbbBFZxbDuccjcccfabcBTYkBsccuBa" ++
    "ccFgmcceCicclccccabEANvbiccfabccabEVChdcccescccabEVElbabEVFhbabEVEzbabEVEfbabEVElcabEVApba" ++
    "bEVClbabEVAvbabCTkbocccabDrbabEVEjbabEARvbccccabEVHdbocccabEVXxzabcBHAizbCmBVaBnbDcFhBjbDc" ++
    "GbkbDacobDacgbDacbbDaCQdBybEyGcvbCmEGpBfbCmBGJxBfbCmCnybCcBUIaBhbCq")

/-- The property `Cased`. -/
def casedRanges : List (Nat × Nat) :=
  rangesOf
    ("CnBagBaBvbkbebfxbBfbHnbeeIacBjhcBefDsbBqecccebbgbbdbbbubDfbFjiGkbBmjBpEFfBmbbfbcBrbeZwDicg" ++
    "DFulfBrcdCmHkCmKscgcBmcgcibbbbbbbBfcCbbhbbddbhdecgenfdbhEmbnbqnDxbebckbbdfgbbbbbbebgebceff" ++
    "ebrBgdcBFlCaCRuIvgedcmBmbbfbBTWcBusBeFcDydebCzugbdBFpBrbogDcBEAihmfBNtBagBaBTtDcDsBkeBkEml" ++
    "bpbhbcblbpbhbcRjbcdbBqbjBUzBznBzDpwkwEFiCmBGIqCmBgzczBMIeDhbCtbccbcccebmbbbhbCnbecibhbBcbe" ++
    "bfbbdhbNcczbzbBfbzbBfbzbBfbzbBfbzbiCSykbuggKbCkDGkCqDAaBagBagBa")

/-- The property `Case_Ignorable`, of what is passed over in search of a cased letter. -/
def ignorableRanges : List (Nat × Nat) :=
  rangesOf
    ("BnbgblbBjbbbCtbebbbebccTjHkecebjcbbJrhHzbfbBxBtbbbcbcbbBsblgklbbBjbkvqbDxibkbeBhbbbBeBbDnl" ++
    "CglebcbyyBrdBsbhcfjBpCgCdbbbeiebdhkcnbpbCgbeeibucBabccCfbececcddbBecdblcCfbefbcebucwgbbCgb" ++
    "cbbeibhclcBebCjbmbBybdbCdbbdfdbehclcBdbCgbcbgbfcucBccCfceeibucBdbCubhdbbDmbchljDubcjjbbhCv" ++
    "cBbbbbbbCdobfbcflbBkjbDyebgbccczcedqenbccgbpbDqbXkdBKkdBdcBecBecCmcbhibcldbfbBtfBzbCncBibE" ++
    "odecjbgdIlccbCgbbhbbbbcigkcbBnbiBucmueBwbbfbbfbBojmcBgeccbdCebbcdbbdCgiccCmgDedbnbhebgbdcB" ++
    "yClnbBiDxRdbbdldndndncmfickbcbcfBxfbkbbnbqnBzBhEJrcEjdEvbpbDsBgBvbSbbBkedffbDpgDpdBQBubBWc" ++
    "gKkbDuebkbbBceDccoBiDabxdDyedcibdbebzcfbFvcBasnbBmizlBudBwbceccrbvcCogccccmbibBjblbBzbbdcc" ++
    "fcbbBbbocfcbbDwfjdErbcbebBDZsbFrrWbqdbmqBibcbGnbhbgblbBjbbbBvbBtcCpbvdTtbIsbFtfBNpgbBqbjWk" ++
    "dbcfeBodebGjcWbeBmbBafbbMdcybCagCslBxeEtbCcpBpbcckdBxecccbebkbBydBkfbiCkbmcCajkecbDrdcbbcg" ++
    "bcbGbbdivcCfcdbBlhdfCsgnbbbbbocDhicdbbxbDggbbecbcJeegcbcBbcDhicbbcEcbbbcgbbDxbbbcebfJzjbcJ" ++
    "wcbbebFoeccebBgkBogceibjgcdBunbcHqbbdbbHthbgbbDewchbcbcEsgdbbcbhbbCucdbbbCnbKvclcCaffbbbxb" ++
    "HXdrgpQYymddDSafChhjeTodBocSobClrCmcbcncYGaebhbcEUgcbeGYuBucxUydjqchBeeFsdCYdCdeByibobwfbp" ++
    "CAihbrchbcbffCkBhbGeoOebCjeTnfJucJjbcbhcfbjbRwhEfiEBffBSXXpbBeDsEyJg")

def lowerChar (c : Char) : List Char :=
  if c.toNat < 0x80 then [c.toLower]
  else if c = '\u0130' then ['i', '\u0307']
  else
    match lowerRuns.find? (·.contains c.toNat) with
    | some run => [Char.ofNat (c.toNat + run.distance).toNat]
    | none => [c]

def startsCased (chars : List Char) : Bool :=
  match chars.dropWhile fun c => inRanges ignorableRanges c.toNat with
  | c :: _ => inRanges casedRanges c.toNat
  | [] => false

def lowerSigma (before after : List Char) : Char :=
  if startsCased before && !startsCased after then '\u03c2' else '\u03c3'

def lowerChars (before : List Char) : List Char → List Char
  | [] => []
  | c :: rest =>
    (if c = '\u03a3' then [lowerSigma before rest] else lowerChar c) ++
      lowerChars (c :: before) rest

end Case

def lower (text : String) : String := String.ofList (Case.lowerChars [] text.toList)

end Assay.Text
