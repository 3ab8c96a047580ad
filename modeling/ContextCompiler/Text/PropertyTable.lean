import ContextCompiler.Text.Runs

/-!
Properties of characters, as the character database gives them.
-/

namespace ContextCompiler.Text.PropertyTable

/-- Lower-case characters that are no lower-case letters. -/
def otherLowercase : Ranges := .read <|
  "GobpbThjhcBefDsbCabFCzbEPzClnbBiBlBAnbnbqnIdqBGqBaCWocBUGkcIcbEzddcBHiejbBIWsbcdbBqbjDDZhCk"

/-- Upper-case characters that are no upper-case letters. -/
def otherUppercase : Ranges := .read <|
  "MQqqBGgBaGSIyBagBagBa"

/-- Alphabetic characters that are neither letters nor letter numbers. -/
def otherAlphabetic : Ranges := .read <|
  "BGfbBdnWeobbbcbcbbCulBwnbhqbDxheeccebBjbBeqDylDxcdjbdbeEcbCimdhguCcccpbcfdkcBddCghcccckbkcBd" ++
  "dCgfecccebBecdbldCgibdbcvcwdedCghccccjckcBebChfddbdkbBofCfhbdbdiclcBddCghbdbdiclcpbmeCghbdbd" ++
  "kbkcBddCxgbbbiscCjbchsbDvbcgbcqbGhtjlbBkEgmbbcexeedbdchdenmbbkeCLocBecBecBecCotHgcBibEomejIo" ++
  "fCfkcuCwcldBxfBwpCidBejccCflBytPwBiCOnCaDKgBgBTQaiBicNqbibxfDkcByqbbCfbBmfBcmBteBwmBlbCpombi" ++
  "cBtdBybbdccfbBsffbJdiBDZvbDEdfCMgdbcfeBEieCnbMjcDbbJzdCboBtcldBtjjbCjdBkmscCfdBwnocDojcbgbcb" ++
  "GbkxeCghcccckbkcDgjbbcbbebcDznbdEcsJdhchBdcDepbbEclDzoJxnJngbcccdbbbFmhcgebBckBqfbeslBuoPrib" ++
  "hDfwboEsgdbbcbdbbdbCofbcbeNkejcbbBwhddYYnrFJcbbCdheDpcBDAybNKjhbrchbcbfDwbDHvbCZwBagBagBa"

/-- Mathematical characters that are no mathematical symbols. -/
def otherMath : Ranges := .read <|
  "DqbBHxdcbBacccKQybBbdlbBgeycocCnnebdcefsbebckbbdfgbdcccbdbgdeffCxfcebcbcbbbfccecesccbbbhbbgc" ++
  "LeeGmcbbybrbRdcmjfffcccdfobbbcgycCfbbbBdejcNecBfkPnwCleBgcDCLfbbbebIdbbbDCOvDhbCtbccbcccebmb" ++
  "bbhbCnbecibhbBcbebfbbdhbNcczbzbBfbzbBfbzbBfbzbBfbzbicByIIqebBbbcbbcbbkbebbbbgbebbbbbbdbcbbcb" ++
  "bbbbbbbbbcbbcebhbebebbbkbrfdbfbr"

/-- Characters that extend others without being marks that take no space. -/
def otherGraphemeExtend : Ranges := .read <|
  "DRybybNubybDybybIybbbecbcjcDzbybEpbpbDMrbBebBNkbfbbbfcDxbCtcBOibGCvcBTWtbEebBGNlcGWmbEmbKebo" ++
  "bjbDsbjbcbbdfbIqbmbJhbKcbYjbmbCHfbBEOkcBKXncggBTLAzDs"

/-- Controls of the direction of writing. -/
def bidiControl : Ranges := .read <|
  "CIebJVlcBafCde"

/-- Characters that are mirrored from right to left. -/
def bidiMirrored : Ranges := .read <|
  "BocsbbbBcbbbBdbbbBtbpbFMseCUncDQqckcCccocGvbHkedgdbdcdebebbbbejfbbsfejcbbbibBgcefbjcctfcjfcc" ++
  "eycqieuchcBPtoCwbcebcbdfefddoPnwcgboibhgdbefbccfebbdcckgccmtbecbbbcbbefcgdyclceebccceBrcibBo" ++
  "fbbbdffdebdfbbJwbTvedcbcocckBriQlkciDACrgfcGgcsbbbBcbbbBdbbbbcbcDDPnbCfbCfbCfbCfb"

/-- Characters that case mappings pass over. -/
def caseIgnorable : Ranges := .read <|
  "BnbgblbBjbbbCtbebbbebccTjHkecebjcbbJrhHzbfbBxBtbbbcbcbbBsblgklbbBjbkvqbDxibkbeBhbbbBeBbDnlCg" ++
  "lebcbyyBrdBsbhcfjBpCgCdbbbeiebdhkcnbpbCgbeeibucBabccCfbececcddbBecdblcCfbefbcebucwgbbCgbcbbe" ++
  "ibhclcBebCjbmbBybdbCdbbdfdbehclcBdbCgbcbgbfcucBccCfceeibucBdbCubhdbbDmbchljDubcjjbbhCvcBbbbb" ++
  "bbCdobfbcflbBkjbDyebgbccczcedqenbccgbpbDqbXkdBKkdBdcBecBecCmcbhibcldbfbBtfBzbCncBibEodecjbgd" ++
  "IlccbCgbbhbbbbcigkcbBnbiBfBxeBwbbfbbfbBojmcBgeccbdCebbcdbbdCgiccCmgDedbnbhebgbdcByClnbBiDxRd" ++
  "bbdldndndncmfickbcbcfBxfbkbbnbqnBzBhEJrcEjdEvbpbDsBgBvbSbbBkedffbDpgDpdBQBubBWcgKkbDuebkbbBc" ++
  "eDccoBiDabxdDzddcibdbebzcfbFvcBasnbBmizlBudBwbceccrbvcCogccccmbibBjblbBzbbdccfcbbBbbocfcbbDw" ++
  "fjdErbcbebBDZsbFrrWbqdbmqBibcbGnbhbgblbBjbbbBvbBtcCpbvdTtbIsbFtfBNpgbBqbjWkdbcfeBodebGjcWbe" ++
  "BmbBafbbMdcDbeCslBxeEtbCcpBpbcckdBxecccbebkbBydBkfbiCkbmcCajkecbDrdcbbcgbcbGbbdivcCfcdbBlhdf" ++
  "CsgnbbbbbocDhicdbbxbDggbbecbcJeegcbcBbcDhicbbcEcbbbcgbbDxbbbcebfJzjbcJwcbbebFoeccebBgkBogcei" ++
  "bjgcdBunbcPqhbgbbDewchbcbcEsgdbbcbhbbCucdbbbNjclcCaffbbbxbHXdrgpQYymddDSafChhjeTodBocSobClr" ++
  "CmcbcYGpebhbcEUgcbeGYuBucxUydjqchBeeFsdCYdCdeByibobwfbpCAihbrchbcbffCkBhbGeoOebCjeTnfJucBCih" ++
  "EfiEBffBSXXpbBeDsEyJg"

/-- Characters that folding changes. -/
def changesWhenCasefolded : Ranges := .read <|
  "CnBaDmbkxbiBgbbbbbbbbbbbbbbbbbbbbbbbbbbbbbbbbbbbbbbbbbbbbbbbbbbbbbbbcbbbbbbbbbbbbbbbbcbbbbbb" ++
  "bbbbbbbbbbbbbbbbbbbbbbbbbbbbbbbbbbbbbbbcbbbbbbbcbbbcbdcebcbddcbcbbbbbcbbcbbcbdbbbcdbhcbcbcbb" ++
  "bbbbbbbbbbbbbbcbbbbbbbbbbbbbbbbbccbbbdbbbbbbbbbbbbbbbbbbbbbbbbbbbbbbbbbbbbbbbbbbbbbbbbbbbbbb" ++
  "bbbbhcbccbbebbbbbbbbJmbBqbbbdbibgbbdbbbcbrbjwbmddcbbbbbbbbbbbbbbbbbbbbbbbbbcccbbbccBzBwbbbbb" ++
  "bbbbbbbbbbbbbbbbbbbbbbbbbbbbjbbbbbbbbbbbbbbbbbbbbbbbbbbbbbbbbbbbbbbbbbbbbbbbbbbbbbbcbbbbbbbb" ++
  "bbbbcbbbbbbbbbbbbbbbbbbbbbbbbbbbbbbbbbbbbbbbbbbbbbbbbbbbbbbbbbbbbbbbbbbbbbbbbbbbbbbbbbbbbbbb" ++
  "bbbbbbbbcBmBwbEFgBmbbfbBFegDFukgBrcdMibbbbbbbbbbbbbbbbbbbbbbbbbbbbbbbbbbbbbbbbbbbbbbbbbbbbbb" ++
  "bbbbbbbbbbbbbbbbbbbbbbbbbbbbbbbbbbbbbbbbbbbbbbbbbbbbbbbbbbbbbbbbbbbbbbbbbbbbbbbbbbbbbbbbbbbb" ++
  "bbbfccbbbbbbbbbbbbbbbbbbbbbbbbbbbbbbbbbbbbbbbbbbbbbbbbbbbbbbbbbbbbbbbbbbbbbbbbbbbbbbbbbbbbbb" ++
  "bbbbbbbbbbbjiigkiiiiglbbbbbbbiiqBwcdcgfdcglemffdcgLlbdcgbBtqtbBFmBaCSuBwBwbbdcbbbbbbebbcbidb" ++
  "bbbbbbbbbbbbbbbbbbbbbbbbbbbbbbbbbbbbbbbbbbbbbbbbbbbbbbbbbbbbbbbbbbbbbbbbbbbbbbbbbbbbbbbbbbbb" ++
  "bbbbbibbbebBTYjbbbbbbbbbbbbbbbbbbbbbbbbbbbbbbbbbbbbbbbbbbbbbtbbbbbbbbbbbbbbbbbbbbbbbbbbbFfbb" ++
  "bbbbbbbbbbbdbbbbbbbbbbbbbbbbbbbbbbbbbbbbbbbbbbbbbbbbbbbbbbbbbbbbbbbbbbbbbkbbbbcbbbbbbbbebbbc" ++
  "bbbdbbbbbbbbbbbbbbbbbbbbfbfbbbbbbbbbbbbbbbebbbcdbfbbbbbbbybBIgDcBEAihmfBNtBaBUzBoFgBkGalbpbh" ++
  "bcCQcBzGbwEGoBgBGJwBgBULkBi"

/-- Characters that some case mapping changes. -/
def changesWhenCasemapped : Ranges := .read <|
  "CnBagBaCgbkxbBfbCmbDgbBccoccbbeDpbsgBbbcbbbcdcbebfcbbccbhbcbbcdgfbkcGkbBqeccddbbgbbdbbbubBvd" ++
  "BhbfbFdiGkbBmkBnEFgBmbbfbcBrcdZwDicgDFulfBrcdHdbdbqbEjGacbbEocgcBmcgcibbbbbbbBfcCbbhbbddbhde" ++
  "cgenfdbhLlbdcgbBbbrBgdcBFlCaCRuEjbcbchDyhedcmBmbbfbBTWcBusBcFeocCkjpddcfbzbBeccbbbiycBHcbBc" ++
  "DcBEAihmfBNtBagBaBTtDcDsBkeBkEmlbpbhbcblbpbhbcCOpBznBzDpwkwEFiCmBGIqCmBUKeCq"

/-- Characters with another lower-case form. -/
def changesWhenLowercased : Ranges := .read <|
  "CnBaDxxbhBhbbbbbbbbbbbbbbbbbbbbbbbbbbbbbbbbbbbbbbbbbbbbbbbbbbbbbbbcbbbbbbbbbbbbbbbcbbbbbbbbb" ++
  "bbbbbbbbbbbbbbbbbbbbbbbbbbbbbbbbbbbbbcbbbbdcbbbcbdcebcbddcbcbbbbbcbbcbbcbdbbbcdbhcbcbcbbbbbb" ++
  "bbbbbbbbbbcbbbbbbbbbbbbbbbbbccbbbdbbbbbbbbbbbbbbbbbbbbbbbbbbbbbbbbbbbbbbbbbbbbbbbbbbbbbbbbbb" ++
  "hcbccbbebbbbbbbbLdbbbdbibgbbdbbbcbrbjBjbibbbbbbbbbbbbbbbbbbbbbbbfbcbbccBzBwbbbbbbbbbbbbbbbbb" ++
  "bbbbbbbbbbbbbbbbjbbbbbbbbbbbbbbbbbbbbbbbbbbbbbbbbbbbbbbbbbbbbbbbbbbbbbbcbbbbbbbbbbbbcbbbbbbb" ++
  "bbbbbbbbbbbbbbbbbbbbbbbbbbbbbbbbbbbbbbbbbbbbbbbbbbbbbbbbbbbbbbbbbbbbbbbbbbbbbbbbbbbbbbbbcBm" ++
  "EHdBmbbfbBBuDiDGlbgBrcdMibbbbbbbbbbbbbbbbbbbbbbbbbbbbbbbbbbbbbbbbbbbbbbbbbbbbbbbbbbbbbbbbbbb" ++
  "bbbbbbbbbbbbbbbbbbbbbbbbbbbbbbbbbbbbbbbbbbbbbbbbbbbbbbbbbbbbbbbbbbbbbbbbbbbbbbbbbbjbbbbbbbbb" ++
  "bbbbbbbbbbbbbbbbbbbbbbbbbbbbbbbbbbbbbbbbbbbbbbbbbbbbbbbbbbbbbbbbbbbbbbbbbbbbbbbbbbbbbbbbjiig" ++
  "kiiiiglbbbbbbbiiyiiiiiiflflemflfLlbdcgbBtqtbBFmBaCSuBwBwbbdcbbbbbbebbcbidbbbbbbbbbbbbbbbbbbb" ++
  "bbbbbbbbbbbbbbbbbbbbbbbbbbbbbbbbbbbbbbbbbbbbbbbbbbbbbbbbbbbbbbbbbbbbbbbbbbbbbbbibbbebBTYjbbb" ++
  "bbbbbbbbbbbbbbbbbbbbbbbbbbbbbbbbbbbbbbbbbbtbbbbbbbbbbbbbbbbbbbbbbbbbbbFfbbbbbbbbbbbbbdbbbbbb" ++
  "bbbbbbbbbbbbbbbbbbbbbbbbbbbbbbbbbbbbbbbbbbbbbbbbbbbbbbbkbbbbcbbbbbbbbebbbcbbbdbbbbbbbbbbbbbb" ++
  "bbbbbbfbfbbbbbbbbbbbbbbbebbbcdbfbbbbbbbybBHAhBaBUzBoFgBkGalbpbhbcCQcBzGbwEGoBgBGJwBgBULkBi"

/-- Characters with another title-case form. -/
def changesWhenTitlecased : Ranges := .read <|
  "DtBaCgbBpybibbbbbbbbbbbbbbbbbbbbbbbbbbbbbbbbbbbbbbbbbbbbbbbbbbbbbbbbcbbbbbbbbbbbbbbcbbbbbbbb" ++
  "bbbbbbbbbbbbbbbbbbbbbbbbbbbbbbbbbbbbbbcbbbbdcbbbcbdbfbcbddcbcbbbbbcbebcbdbbbcbdbbbebbcbcbbbb" ++
  "bbbbbbbbbbbbbcbbbbbbbbbbbbbbbbbdbbbbdbbbbbbbbbbbbbbbbbbbbbbbbbbbbbbbbbbbbbbbdbbbbbbbbbbbbbbb" ++
  "bbibccbbebbbbbbbbgbcbbbcdcbebfcbbccbhbcbbcdgfbkcGkbBrbbbdbddsbBbBjbcddbbbbbbbbbbbbbbbbbbbbbb" ++
  "bfbbcbcbCaBwbbbbbbbbbbbbbbbbbbbbbbbbbbbbbbbbbbjbbbbbbbbbbbbbbbbbbbbbbbbbbbbbbbbbbbbbbbbbbbbb" ++
  "bbbbbbbbcbbbbbbbbbbbbcbbbbbbbbbbbbbbbbbbbbbbbbbbbbbbbbbbbbbbbbbbbbbbbbbbbbbbbbbbbbbbbbbbbbbb" ++
  "bbbbbbbbbbbbbbbbbbbbbbbbbbBxBnFMegDFujbbJebdbqbEkbbbbbbbbbbbbbbbbbbbbbbbbbbbbbbbbbbbbbbbbbbb" ++
  "bbbbbbbbbbbbbbbbbbbbbbbbbbbbbbbbbbbbbbbbbbbbbbbbbbbbbbbbbbbbbbbbbbbbbbbbbbbbbbbbbbbbbbbbbbbb" ++
  "bbbbbbbbbbbbbhfbbbbbbbbbbbbbbbbbbbbbbbbbbbbbbbbbbbbbbbbbbbbbbbbbbbbbbbbbbbbbbbbbbbbbbbbbbbbb" ++
  "bbbbbbbbbbbbbbbbbjigkiiiigkiiiiociiiiiifbcgbddbciecciikdbcNebBhqebBGlBaCTqBwbbdcbbbbbbgbcbkb" ++
  "bbbbbbbbbbbbbbbbbbbbbbbbbbbbbbbbbbbbbbbbbbbbbbbbbbbbbbbbbbbbbbbbbbbbbbbbbbbbbbbbbbbbbbbbbbbb" ++
  "bbbbbbibbbebmBmbbfbBTWdbbbbbbbbbbbbbbbbbbbbbbbbbbbbbbbbbbbbbbbbbbbbbtbbbbbbbbbbbbbbbbbbbbbbb" ++
  "bbbbFfbbbbbbbbbbbbbdbbbbbbbbbbbbbbbbbbbbbbbbbbbbbbbbbbbbbbbbbbbbbbbbbbbbbbbbbbbbbkbbbcbbbbbb" ++
  "bbbebebbccbbbbbbbbbbbbbbbbbbblbbbbbbbbbbbbbbbebbbcbdbbbbbbbbbbbBabBHcbBcDcBEAihmfBOzBaBVhBo" ++
  "FgBkFzlbpbhbcCRbBzEvwEGoBgBGJwBgBULmBi"

/-- Characters with another upper-case form. -/
def changesWhenUppercased : Ranges := .read <|
  "DtBaCgbBpybibbbbbbbbbbbbbbbbbbbbbbbbbbbbbbbbbbbbbbbbbbbbbbbbbbbbbbbbcbbbbbbbbbbbbbbcbbbbbbbb" ++
  "bbbbbbbbbbbbbbbbbbbbbbbbbbbbbbbbbbbbbbcbbbbdcbbbcbdbfbcbddcbcbbbbbcbebcbdbbbcbdbbbfcbcbcbbbb" ++
  "bbbbbbbbbbbcbbbbbbbbbbbbbbbbbcbcbbdbbbbbbbbbbbbbbbbbbbbbbbbbbbbbbbbbbbbbbbdbbbbbbbbbbbbbbbbb" ++
  "ibccbbebbbbbbbbgbcbbbcdcbebfcbbccbhbcbbcdgfbkcGkbBrbbbdbddsbBbBjbcddbbbbbbbbbbbbbbbbbbbbbbbf" ++
  "bbcbcbCaBwbbbbbbbbbbbbbbbbbbbbbbbbbbbbbbbbbbjbbbbbbbbbbbbbbbbbbbbbbbbbbbbbbbbbbbbbbbbbbbbbbb" ++
  "bbbbbbcbbbbbbbbbbbbcbbbbbbbbbbbbbbbbbbbbbbbbbbbbbbbbbbbbbbbbbbbbbbbbbbbbbbbbbbbbbbbbbbbbbbbb" ++
  "bbbbbbbbbbbbbbbbbbbbbbbbBxBnEHcBrcdBDggDFujbbJebdbqbEkbbbbbbbbbbbbbbbbbbbbbbbbbbbbbbbbbbbbbb" ++
  "bbbbbbbbbbbbbbbbbbbbbbbbbbbbbbbbbbbbbbbbbbbbbbbbbbbbbbbbbbbbbbbbbbbbbbbbbbbbbbbbbbbbbbbbbbbb" ++
  "bbbbbbbbbbbbbbbbbbhfbbbbbbbbbbbbbbbbbbbbbbbbbbbbbbbbbbbbbbbbbbbbbbbbbbbbbbbbbbbbbbbbbbbbbbbb" ++
  "bbbbbbbbbbbbbbbbbbbbbbjigkiiiigkiiiiocCbbcebbbddbcebdecciikdbcebMzbBhqebBGlBaCTqBwbbdcbbbbbb" ++
  "gbcbkbbbbbbbbbbbbbbbbbbbbbbbbbbbbbbbbbbbbbbbbbbbbbbbbbbbbbbbbbbbbbbbbbbbbbbbbbbbbbbbbbbbbbbb" ++
  "bbbbbbbbbbbbibbbebmBmbbfbBTWdbbbbbbbbbbbbbbbbbbbbbbbbbbbbbbbbbbbbbbbbbbbbbtbbbbbbbbbbbbbbbbb" ++
  "bbbbbbbbbbFfbbbbbbbbbbbbbdbbbbbbbbbbbbbbbbbbbbbbbbbbbbbbbbbbbbbbbbbbbbbbbbbbbbbbbbbbbbbkbbbc" ++
  "bbbbbbbbbebebbccbbbbbbbbbbbbbbbbbbblbbbbbbbbbbbbbbbebbbcbdbbbbbbbbbbbBabBHcbBcDcBEAihmfBOzBa" ++
  "BVhBoFgBkFzlbpbhbcCRbBzEvwEGoBgBGJwBgBULmBi"

/-- Dashes. -/
def dash : Ranges := .read <|
  "BtbCAubBzbFKjbBNpbDBdgCjbBnbpbPabEOibcbBfcebBcbRebtbEhbCZWacBlbkbGnbFLobMgb"

/-- Characters that are not to be used. -/
def deprecated : Ranges := .read <|
  "MrbBYvbDKtbbbDCjcDIjgBAvcBZRYkb"

/-- Signs that modify others. -/
def diacritic : Ranges := .read <|
  "DqbbbCtbgbebccTjGdbifgrcebjcJtfIbbCdBtbbbcbcbbFbiecFececddCpBbDnlCglBicEwiBpkqBcCjbqbdeBcbCw" ++
  "bqbEgbqbEgbqbBvdCibqbhbEpbEgbqbEgbqbEfcqbEubEhbmgbbEdbnfCxcBbbbbbbecCodbcCkbEibbcBocefzhbbkc" ++
  "BBddBKmcBebFsljbNjdLgbuicbBwpclEabpbBmjCccCgblcCocCmgDezebgbcdByClBwBkfmBllRdbbdldndndncEXkd" ++
  "MfbTmgEbeDrbBSMkbmcbbBccDecoBiDydEfcmbBlbFvbBbsCfeBkbDrbmbBkbFtdCneBzbDwfjdEycBDZsbBDpqKkbbb" ++
  "BvbBtcCpbBDkbBTngbBqbjYndebGjcVzgBmbBafPjdCslBxeHkbBpbCucEqcCkbCybjdEacGwcDccqbyhdfDldbcncDr" ++
  "bdbEtcJrcEwbEocElbKjcJycebGabDfbsbDdbQfbJybbcDdbQjcxbHYapQZpbDSafChhVscVarDccYGcebhbcLThBucx" ++
  "UyddgiichBeeFMwCkHmhOlbCjeBDmcBCihEfdbd"

/-- Pictures in texts. -/
def emoji : Ranges := .read <|
  "BjbgbfkEhbebLYrbmbIibwbDmgpcOdcmbGkbzledHrbIxckbjbCgebfjbcbcccbebcbbccbdbdcidfbbbfmlccbbcbbs" ++
  "bccsgbbbcdcfbcceclcfccbfcbbbcucfgbecbebcbcgbbcbbbbbgbdbgbkcpbcbebbbedbblcBwdjbobobOicRvdtcBz" ++
  "bebBVubmbXdbbbGMRqbHubGecmcobckCxBabcxbubcjvcGsBicEiccbdcDfcdbKdbCllgbyhccimbcecbecnccbicjbf" ++
  "dmdidcbbbebgbdbgDiBwCsficdekdbbcdbckItmebKxBvbkbHdEindkfCehpclgj"

/-- Parts of sequences of pictures. -/
def emojiComponent : Ranges := .read <|
  "BjbgbfkMBjbIfbDFTrbDOIwBaTnfCEaeBSVUqDs"

/-- Pictures with skin tones. -/
def emojiModifierBase : Ranges := .read <|
  "OLhbIlbqeGSJvbCidcbcdEncclvtdbedbdhbbbybHtcebvbecGsddfDfbqdjblbWdbcbiigbjkcdCebCjcbcbbrdbnIv" ++
  "dBqj"

/-- Characters that are shown as pictures. -/
def emojiPresentation : Ranges := .read <|
  "NHqcHxedbcbUbcvcBymBrbtbnbicrcfcibfbvbhcbbebcbhbecBcbBjbbbedbbCjdybobBHbcBzbebGPLebHubHibck" ++
  "CxBabbybubcfbdvcGsBhmjbCsbwmBrefmrdbdCtbbbHfcClnebysbBacnbDiDhBwCsgbddcdeelchjItmebKxBvbkbHd" ++
  "EindkfCehpclgj"

/-- Characters that are or may become pictures. -/
def extendedPictographic : Ranges := .read <|
  "GnbebLYrbmbIibwbDmgpcOdcmbGkbzledHrbIxckbjbCgebfjbcbcccbebcbbccbdbdcidfbbbfmlccbbcbbsbccsgbb" ++
  "bcdcfbcceclcfccbfcbbbcucfgbecbebcbcgbbcbbbbbgbdbgbkcpbcbebbbedbblcBwdjbobobOicRvdtcBzbebBVub" ++
  "mbXdbbbGMRqbBneDwmpcpbocBlkEicmcobcktCeBbpkbubcjbejxgHgcEiccbdcDfcdbefJubCllgbyhccimbcecbecn" ++
  "ccbicjbfdmdidcbbbebgbdbgDiBwCsficrdbbgcnIkBmmeCeikgBoiBecmecojBnmBvbkbHdDkioFqJwBNi"

/-- Characters that lengthen others. -/
def extender : Ranges := .read <|
  "HbbUqcBHubQzbYgbFhbDlbBCybExbDNfbCebXnbPibCqbHKjbBrfDzcDpdBQBubCGsbBLabwbFhbEebvcBFZvbDBkc" ++
  "CFbbBbbebBVbbLhbEmcTedBVjbBEOfcBTkcbbBQYacBUfbBGud"

/-- Hexadecimal digits. -/
def hexDigit : Ranges := .read <|
  "BwkhgBagDSLlkhgBag"

/-- Ideographs. -/
def ideographic : Ranges := .read <|
  "SEwczjodBLdJToCmBFBkBHSiOccEcBSIkbBbJCaiBVqBpkNUlPgBDEiCLFcBgGDugIocINqoLBlpXyDQwUwCFyHHzf" ++
  "GFg"

/-- Vowels that are written before their consonants. -/
def logicalOrderException : Ranges := .read <|
  "FKifEtfEDsdcbCCXmccbbc"

/-- Signs for the grammar of patterns. -/
def patternSyntax : Ranges := .read <|
  "BhpkhBaebbBaeBihbbbcbbbcebebdbxbBfbLUeyipctbkLtBBsGeYgBeBRoTsEyOvdezpbCZQzcKbc"

/-- Quotation marks. -/
def quotationMark : Ranges := .read <|
  "BibebFbbpbLWuizcFIdbRpendDABpeHhbebDmc"

/-- Radicals of ideographs. -/
def radical : Ranges := .read <|
  "RPwBabDlmIg"

/-- Signs that end sentences. -/
def sentenceTerminal : Ranges := .read <|
  "BhbmbqbCAbbFrdGybBrdJmbCjbbbdcLhcCPwcBEkbecBDtbHqcGbcBtbfbMccNqeGgckcccBddHfcCncBJwbxcjdEUxd" ++
  "LubnbwcQnbBSHwbKkcItbdbOscDicDrbFwcFrdFocJpbBFCwbccChbdcGnbmbqbCnbEDwcBXdfBseHhcEneExdEzcgbq" ++
  "cDkcbcEebLmcEncOjcfpEbcJpdTxbbbJrcDjcQecBAqcCwcBCMbcFdbCnclbVhcLkbBDOgbLImb"

/-- Characters whose dot goes under an accent. -/
def softDotted : Ranges := .read <|
  "EbcHobKvbBebCabubMibDubbbJMnbBzbnbdbFcbGbbQfbIgcEGgbGELhcBycBycBycBycBycBycBycBycBycBycBycBy" ++
  "cDFybLtcBab"

/-- Signs that end parts of texts. -/
def terminalPunctuation : Ranges := .read <|
  "BhbkbbblcdbBFybibTtbCfbCubobbdGybBrlbbJbcCcgbiBfbKbcBWucGqbegLzcBEjiBDtbEudCtcGbddbBneccMcc" ++
  "NqeGgckcbdBddHffCkcBJwbxcjdEUxdLubnbebkbbcdcQmcBSHvcKjdItfOscDicDrbFvdFrdExbqcJpbBFCwbccCfdb" ++
  "eGnbkbbblcdbCnbcbBPqbBwbBSobHrbLycFwgCqgDleBKqfBseHhhEieExdEzcgbqcDkfEebLmcEndmcNuedpEbcJpd" ++
  "TxbbbJrcDjcecPydBtbYvcCwcBYxfBAMzcFdbCndkbVhcLjcBDOgbLIle"

/-- Unified ideographs. -/
def unifiedIdeograph : Ranges := .read <|
  "TSaJToCmBFBkBICscbbbckbbbbccdDVEcCLFcBgGDugIocINqoLBlpXyGRqHHzfGFg"

/-- Selectors of variants. -/
def variationSelector : Ranges := .read <|
  "JCtdbbDJCaqBWNKyJg"

end ContextCompiler.Text.PropertyTable
