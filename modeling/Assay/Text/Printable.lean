/-!
# Printable characters

All tables of characters are those of Unicode 17.0.
-/

namespace Assay.Text

def inRanges (ranges : List (Nat × Nat)) (n : Nat) : Bool :=
  ranges.any fun (x, last) => x ≤ n && n ≤ last

/-- Numbers in base 26. Only the last digit of a number is a small letter. -/
def numbersOf (s : String) : List Nat :=
  let read (hit : List Nat × Nat) (ch : Char) : List Nat × Nat :=
    if ch.isUpper then (hit.1, hit.2 * 26 + (ch.toNat - 'A'.toNat))
    else ((hit.2 * 26 + (ch.toNat - 'a'.toNat)) :: hit.1, 0)
  (s.toList.foldl read ([], 0)).1.reverse

/-- Ranges of numbers, given in turn by how many numbers lie before a range, from the end of the one
before it, and how many are in it. -/
def rangesFrom (start : Nat) : List Nat → List (Nat × Nat)
  | skipped :: k :: xs =>
    (start + skipped, start + skipped + k - 1) :: rangesFrom (start + skipped + k) xs
  | _ => []

def rangesOf (s : String) : List (Nat × Nat) := rangesFrom 0 (numbersOf s)

def hiddenRanges : List (Nat × Nat) :=
  rangesOf
    ("aBgDrBimbBBmcgehbbbubPhbBmcBycdbCdiBbegrwbHkbBwcChcDxoChcBxcpbBccbblfBghCxbGfbicccwbhbbdec" ++
    "jccceibecbfczcdbgeccwbhbcbcbccbbfeccddbhebbhrkdbjbdbwbhbcbfckbdbdcbpecmhhbdbicccwbhbcbfcjc" ++
    "ccdhdecbfcskcbgddbedcbbbcdcdddmefddbecbgbovfnbdbxbqcjbdbehcbdbcceckhwbdbxbkbfcjbdbehcfdbec" ++
    "kbdmnbdbBzbdbgeqcBabdbsdybjbbchdbegbbbigkcdmCgeBdBlcbbbfbybbbxcfbbbhbkceBgCubBkeBnbBkbpbnB" ++
    "lHqbbfbcFncIybechbbbecBpbecBhbechbbbecpbCfbecCpcBgdBagDicgcYqbBcdDlhwjyjumnbdbcmDqckgkgobl" ++
    "gDlhBrfCskBfbmemebdBqcflBseBagldCkcCnbBdclgkgocBucmuCzbGkiCidpdCkfBrcliBrfUocgcBmcgcibbbbb" ++
    "bbBfcCbbpbocgbtcdbjryiBvrccBbbndBioBhpFkeZqwlvCRscOsfBtbbfbcCehcoyjhbhbhbhbhbhbhbhbEwBiBab" ++
    "DlmIgBaqbClbDicDzfBrbBzbBqbDijBwbBRIrdCdjNkuHciInuCidkgCeiCsimgEmlBedDableBhbCdjockcDzyBck" ++
    "gcgcgjhbhbCieEwckgQNsmxeBxMNcOccEcBmhmffBabfbbbcbcbZaBgBqgBzbtbeefbFfeGdbBedgcgcgcddhbhncc" ++
    "mbBabtbcbpcoBiEtfdeBtdDkbndbBvBuFaBddBxpBceBkjBefBrfBebBleoBqGcckgBkeBkeBoiCalmbpbhbcblbpb" ++
    "hbcdCamLzjwkiygbBqbjCrgcbbBsbcdbcxbCuijBwtbcfBhdBbfBbBmCeeucBybcfibdbBdcdekhjhCmBgBnemjCcd" ++
    "BdcBbfBahemhDcCvCdBznBzhBuikgBmdBdicIaBfbBqbdccqgijBhBuiBqwBaBmBcuxjDaeBkjCkbfnzhkgCbbsiBn" ++
    "jDsbulsbBvCkhbbbebpblgChfkgebicccwbhbcbfbkcccdcbgbfhchdflkbbcbbBmbkbbcbbebkbcicBdDobfBeCui" ++
    "kGkCccBmBiCrlkgntCggkguBcBbcpexHdCiDwDfmicbcibcbBebccmjkCsicBuclBbCuiDfnCvhkDiiDkBiokgjbBt" ++
    "bokBddBgcwboCvhbcbBsdbbcbjikggbcbBlbcbghkgBsekJmzhrbBpdBdDhbpBynBJnDyEhbflHoDXkDvnBPgqwkFX" ++
    "rfWlKDdCgCOsVxhBfbkeDdbkgBecgkCskkbhbvftQqCgHqDnfzczBsCxeCfhrCmflhjKXyBpBgDtElMWrebhbcbLfp" ++
    "bBddcboeiPgDKuEdfndjhkceFVkJtdQugxprpBucxjEmCiJmkBncCwiEivCsEsumumDjjzFfDhbCtbccbcccebmbbb" ++
    "hbCnbecibhbBcbebfbbdhbNccLgcBBapfbpBQmBfggIfhbrchbcbffCkBhbEiBtdockecMiBfrCgfbRwBqIgBrebHk" ++
    "BfbwicIqhbebcbpbHpcqBpCyekecBEfCqCyCjHmebBbbcbbcbbkbebbbbgbebbbbbbdbcbbcbbbbbbbbbbcbbcebhb" ++
    "ebebbbkbrfdbfbrCacKkBseDwmpcpbpbBlkGsCeBdnBsejhcogFyBLxdrdndIkgmebpmeCeikgBoiBecmecojBnNgi" ++
    "ocndldCfbbeqcmekhFrbDzBNpCLFcBgGMocIOccLBlpXyDQwUwCFyHHzfMOoBOGXyJgLECu")

def attachedRanges : List (Nat × Nat) :=
  rangesOf
    ("BDoEiKphKdBtbbbcbcbbCulBwvqbDxhcgccbeBjbBeBbDnlCgjjbyebjbdbfBrdChjBqybBgCdbbbeiebdhkcBdbCg" ++
    "bbbceibjbkcBabccCfbececcddbBecdblcCfbefbcebucwgbbCgbbcbeibhdkcBebChbbbmbjbBobdbCdbbdfdbehc" ++
    "lcBdbCgbccbbddbehclcBccCfcbbceibjbkcBdbCubebcdbbibDdbchmiDubcjlhCvcBbbbbbbCdobfbcflbBkjbDy" ++
    "ebgbccczcedqenbccgbpbBBbdBKkeBcdBdcBecCmcbhibcljbBtdbbEncBibEodecjbgdIlccbCgbbhbbbbcigkcbB" ++
    "wBucmueBwkedBmjmcBgecgCebbcdbbfCeiccFwdbnbhebgbdcHqCmUebHnBhEOcdFlbDsBgVigEbcBSQeebkBgcDcc" ++
    "KmbdbebzcfbFvcBasnbBmizlbbBsdBwbcecccbBkbCpgccccmbibBvbBzbbdccfcbbBqcibJebcbebBDZsbBCjqqqB" ++
    "LlbIsbFtfCMgdbcfeBodebGjcWbeCnfMfcCzgCslBxeEtbCcpBpbcckdBxecchbCjdBkfbiCkbmcCajbbiecbDrdce" ++
    "gbcbGbbdivcCfcbbbbmbjbohdfCpbcgbbcbbdedbbocDhicdbbxbDdbcgbbcbbcbcJbbcegcbcBbcDhicbbcEcbbbc" ++
    "iDxbbbcebfJzjbcJlbkeebFoeccebBgkBogceibjgcdBunbcHqbbdbbHthbgbbDewchbcbcEsgdbbcbhbbCucdbbbN" ++
    "jclcCaffdxbHXtbgpQYymddDSafChhBOibCleDdblcBDAxcGYzBucxUwfdgiichBeeFsdCYdCdeByibobwfbpCAihb" ++
    "rchbcbfDwbGehOlbCjeToeJucJjbcbhcfbSghEfhBTCAfDsEyJg")

def isPrintable (c : Char) : Bool :=
  (0x20 ≤ c.toNat && c.toNat ≤ 0x7E) || !inRanges hiddenRanges c.toNat

def formatRanges : List (Nat × Nat) :=
  rangesOf
    ("GebmbCAkgwbHkbBxbOucDcbDFocBYlbPhbDAfqBagBvgbkFXgbNrbCODfJMeCHbbGebDkdGIzbpbNKkqBZQueHWxiB" ++
    "TKZmbBeDsDSTsDSYocDSYo")

def isShown (c : Char) : Bool := isPrintable c || inRanges formatRanges c.toNat

def isAttached (c : Char) : Bool := c.toNat ≥ 0x300 && inRanges attachedRanges c.toNat

end Assay.Text
