/-!
The scripts of all characters, as the character database gives them.
-/

namespace ContextCompiler.Text

/-- The names of the scripts, in lower case and without dividers, by their numbers in the runs. The
first stands for no script. -/
def scriptNames : String :=
  "zzzz,unknown zyyy,common arab,arabic latn,latin ethi,ethiopic grek,greek " ++
  "zinh,inherited,qaai hani,han taml,tamil guru,gurmukhi gran,grantha beng,bengali " ++
  "gujr,gujarati hang,hangul kana,katakana orya,oriya knda,kannada sinh,sinhala telu,telugu " ++
  "laoo,lao tutg,tulutigalari cyrl,cyrillic geor,georgian hebr,hebrew diak,divesakuru " ++
  "khar,kharoshthi vith,vithkuqi gonm,masaramgondi linb,linearb mlym,malayalam tibt,tibetan " ++
  "cprt,cypriot glag,glagolitic gong,gunjalagondi hira,hiragana mong,mongolian " ++
  "deva,devanagari dupl,duployan hmng,pahawhhmong lana,taitham limb,limbu mult,multani " ++
  "armn,armenian bhks,bhaiksuki cham hmnp,nyiakengpuachuehmong khmr,khmer mymr,myanmar " ++
  "syrc,syriac talu,newtailue tang,tangut xsux,cuneiform adlm,adlam ahom bopo,bopomofo " ++
  "brah,brahmi cans,canadianaboriginal cher,cherokee copt,coptic,qaac gara,garay hatr,hatran " ++
  "hung,oldhungarian java,javanese kawi kits,khitansmallscript lepc,lepcha lina,lineara " ++
  "marc,marchen merc,meroiticcursive mroo,mro mtei,meeteimayek nand,nandinagari " ++
  "phlp,psalterpahlavi plrd,miao sgnw,signwriting tagb,tagbanwa tfng,tifinagh yezi,yezidi " ++
  "aghb,caucasianalbanian armi,imperialaramaic avst,avestan bali,balinese bamu,bamum " ++
  "bass,bassavah batk,batak bugi,buginese cakm,chakma egyp,egyptianhieroglyphs " ++
  "ital,olditalic kali,kayahli khoj,khojki kthi,kaithi lisu lydi,lydian mand,mandaic " ++
  "mani,manichaean mend,mendekikakui modi nbat,nabataean newa nkoo,nko nshu,nushu " ++
  "onao,olonal osge,osage osma,osmanya phli,inscriptionalpahlavi phnx,phoenician " ++
  "prti,inscriptionalparthian rjng,rejang rohg,hanifirohingya runr,runic samr,samaritan " ++
  "saur,saurashtra sidd,siddham sind,khudawadi sora,sorasompeng sund,sundanese sunu,sunuwar " ++
  "takr,takri tale,taile tavt,taiviet tglg,tagalog thai tirh,tirhuta tnsa,tangsa " ++
  "ugar,ugaritic wara,warangciti wcho,wancho xpeo,oldpersian yiii,yi brai,braille buhd,buhid " ++
  "cari,carian chrs,chorasmian cpmn,cyprominoan dogr,dogra dsrt,deseret elba,elbasan " ++
  "elym,elymaic goth,gothic gukh,gurungkhema hano,hanunoo hluw,anatolianhieroglyphs " ++
  "krai,kiratrai lyci,lycian mahj,mahajani maka,makasar medf,medefaidrin " ++
  "mero,meroitichieroglyphs nagm,nagmundari narb,oldnortharabian ogam,ogham olck,olchiki " ++
  "orkh,oldturkic ougr,olduyghur palm,palmyrene pauc,paucinhau perm,oldpermic phag,phagspa " ++
  "sarb,oldsoutharabian shaw,shavian shrd,sharada sogd,sogdian sogo,oldsogdian soyo,soyombo " ++
  "sylo,sylotinagri thaa,thaana todr,todhri toto vaii,vai zanb,zanabazarsquare "

/-- The runs of equal script. -/
def scriptRuns : String :=
  "bCndBabgdBabBvdbbpdbbfdxbbdBfbbdRhbBndfbfCccbugEifebbfdacfebbfbaefbbbfbbbfdabfbabfuabfClCgof" ++
  "qvFdgcvGnabBqBmacBqByacBqdabxCdaixBbaexgalcfbbcgbbcobbcdbbcBgbbckglcBagbcEebbcBiBwoabBwCiac" ++
  "BwdcBwGkByaoDwChacDwdEhBuacEhpabDqBcacDqbabBwlafcBfabccafcCxbbcBdBkDdgeBkpbcBkBaleabliaclcac" ++
  "lwablhablbadleacljaclcacleailbaelcablfaclzacjdabjgaejcacjwabjhabjcabjcabjcacjbabjfaejcacjdad" ++
  "jbahjeabjbahjrakmdabmjabmdabmwabmhabmcabmfacmkabmdabmdacmbapmeacmmahmhabpdabpiacpcacpwabphab" ++
  "pcabpfacpjacpcacpdahpdaepcabpfacpsakicabigadidabieadicabibabicadicadidadimaeifadidabieacibag" ++
  "ibaoivafsnabsdabsxabsqacsjabsdabseahscabsdacsbacseacskahsjqnabqdabqxabqkabqfacqjabqdabqeahqc" ++
  "agqcabqeacqkabqdamBdnabBddabBdBzabBddabBdgaeBdqacBdBaabrdabrsadryabrjabrbacrhadrbaergabrbabr" ++
  "iagrkacrdamEsCgaebbEsBcaBltcabtbabtfabtyabtbabtxactfabtbabthabtkacteaBgBeCuabBeBkaeBeBnabBe" ++
  "BkabBepabBehbeBecaBlBvGewBmabwbafwbacwBrbbwenJweCvabeeacehabebabeeaceBpabeeaceBhabeeacehabeb" ++
  "abeeacepabeCfabeeaceCpaceBgadeBaagCfDiacCfgacCeYqFvBdadEgCxbdEglahErwajErbFlvbcajFbuamCxnab" ++
  "CxdabCxcamBuDqacBukagBukagBjcbcBjbbbBjuagBjDlahBjBrafCeCsakBoBfabBomaeBomaeBobadBomEpBeacEpf" ++
  "alBxBsaeBxBaagBxladBxcBuBgDhBcacDhcBnClabBnBdacBnlagBnkagBnoacgBfaBxDdCzabDdByEmCmDgCaaiDge" ++
  "CnCeadCnpadCndFwBwvlafwBracwdEmiaigdbbgnbbghbegbbggbbdgcbbafdBmffvbdBxffdeffdnvbdCsfbgCmdJwf" ++
  "wacfgacfBmacfgacfiabfbabfbabfbabfBfacfCbabfpabfoacfgabftacfdabfjabbmgcbDjabbldbacbldbbpabdna" ++
  "dbBhapgBhapbBmfbbddcbgdbbBbdbbrdBpbdaebZqawblavbBJsFaJwbYeacbBgabbEbBgDsdBgCgEmafCghwBmabwba" ++
  "fwbacCyCeahCycaoCybexajehabehabehabehabehabehabehabehabvBgbDqaBihBaabhDlamhIgaBabvhbbbhbbzhj" ++
  "gencbihebeabBiDiacgcbcBidbboDmbcodafCcBrabnDqabbqCcBgbBmajbboqnBfabbCmnBfbDdoBvbboDkbGmhJTob" ++
  "CmhBFBkEzBSvadEzCdajDoBwGnLoauvDsDeDkaibBidDybddCpacdcabdbabdiavdoGjBtadbkagGcCeaiEiCsaiEima" ++
  "gBkBgDlBubbDlbEeBkalEebnBdadCkDaabbbCkkaeCkcBvBfabBsCdajBsoacBskacBseBvBgEqCpayEqfCsxakegace" ++
  "gacegajehabehabdBrbbdjfbdebcaeCfDcCsBuacCskagnQNsamnxaenBxaMNchOcachEcaBmdhamBqfafxBaabxfabx" ++
  "babxcabxcabxkcElaqcNzbccDcaccCcahcbaBgcqgqbkaggovcbBjabbtabbeaecfabcFfacbbabbBgdBabgdBablokb" ++
  "boBtbcnBfadngacngacngacndadbhabbhakbfacBcmabBcBaabBctabBccabBcpacBcoaBiBcEtafbdaebBtadbjfDba" ++
  "bbnadfbaBvbBtgbaFaFoBdadFcBxapgbbBbaeDkBkajDkdFjBbafGbBrafEvBeabEvbEyBkaeEyoaBqFgDcGeBwEaBea" ++
  "cEakagDzBkaeDzBkaeFhBoaiDaCaalDabBalabBapabBahabBacabBalabBapabBahabBacadGlCaamCoLzajCowakCo" ++
  "iaydgabdBqabdjaCrBfgacBfbabBfBsabBfcadBfbacBfbDbwabDbjFzBgDuBfaiDujaBwCitabCicafCifEcBcadEcb" ++
  "DpBaafDpbaCmFsBgCqyaeCquacCqBuzeabzcafziabzdabzBdaczdaezkahzjahGdBgFuBgaBgDrBnaeDrmajDcCcad" ++
  "DchEdwacEdiEbtafEbiCusahCueamCuhaDcFxCvaCdCjBzanCjBzahCjgEfBoaiEfkagChBmadChBdaiChcaIacBfab" ++
  "CzBqabCzdacCzcaqcdaCdceGhBoaiGgBqawFyBaaBmFdBcauFixajCdDaaeCdBkajCdbDnCpakDnbacElzahElkagDi" ++
  "CbabDisaiFpBnajGfDsabrualDmsabDmBvaCkBphabBpbabBpeabBppabBplagEkChafEkkagkeabkiackcackwabkha" ++
  "bkcabkfabgbkjackcackdackbagkbafkhackhadkfalukabubacubabuBmabukabubacubabueabukabucaiucaBdDv" ++
  "DoabDvfaBeEtCuaiEtkaGkEjCcacEjBmaBiDtCralDtkagBjnatEoCgagEokagBvuaBcCbBbacCbpaeCbxaHdFfCiaDw" ++
  "EwDfamEwbyhacybacyiabycabyBeabycacymajykaCsCtiacCtBuacCtlaBbGoCuaiGiDfanCeqGaCfahBkkaHaEnBia" ++
  "oEnkagBrjabBrBtabBroakBrBdadCpBgacCpwabCpoaCvBbhabBbcabBbBsadBbbabBbcabBbjaiBbkagBhgabBhcab" ++
  "BhBlabBhcabBhgahBhkaLyFqzahClrabClBpadClBdaDhDobapiByanibBzBJmaDyBzEhabBzfalBzHoaDXkFeDvanDj" ++
  "BQsakDjFXrafFmWlaKDdFkCgaCOsDeVxahCrBfabCrkaeCrcEuDbabEukagDfBeacDfgakBmCsakBmkabBmhabBmvaf" ++
  "BmtaQqFnCgaHqFrDnaDxCvCxaeCvCfahCvraCmBybDxbhcCmbalhcaoByJCaaiByBDoCmScaBpCmbByjaNFroeabohab" ++
  "ocabobBiLbodapBibaBdBidacobaooeaiDxPgaDKuBlEdafBlnadBljahBlkacBlebeaFVgbJqagbQuaCygBuacgxajb" ++
  "EmaCibJmakbBnacbCkgdbrgibcghbBegebCjavfCsaEsbuambuambDjajbzaFfbDhabbCtabbcacbbacbcacbeabbmab" ++
  "bbabbhabbCnabbeacbiabbhabbBcabbeabbfabbbadbhabbNcacbLgacbByCwZcapCwfabCwpaBQmdBfagdgaIfBghab" ++
  "BgracBghabBgcabBgfafvCkaBhvbaEiBtBtadBtoacBtkaeBtcaMiGmBfarExCgafExbaRwFtBqaIgDyBraeDybaSmeh" ++
  "abeeabecabepabDsHpacDsqaBpCaCyaeCakaeCacaBEfbCqaCybCjaHmceabcBbabccabcbaccbabckabceabcbabcba" ++
  "gcbaecbabcbabcbabcdabccabcbaccbabcbabcbabcbabcbabccabcbacceabchabceabceabcbabckabcrafcdabcfa" ++
  "bcraCaccaKkbBsaebDwambpacbpabbpabbBlakbGsaCebBaBibbcanbBsaebjahbcaobgaFybBLwaebradbnadbEpaeb" ++
  "DragbmaebbapbmaebCeaibkagbBoaibBeacbmaebcaCkbNcamboacbnadbkafbCeahbpacblagbjahbFrabbDyaBNqh" ++
  "CLFcaBghGDuaghIoachINqaohLBlaphXyaDQwhUwaCFyhHHzafhGFgaBOMXlbbaBebDsaEygJg"

/-- The runs of characters that several scripts or another script than their own take. The
numbers count the groups of scripts, from one on. -/
def sharedRuns : String :=
  "aHbpbaTwBabakBtbabBtdabBybajCbbabBtbaBmsbtbBfbBkbrbBbbubBjbqbBwbBmbBgbBubCabobabCabBhbabvbap" ++
  "BcbBnbBpbahBsbBpbabBqbBrbaqCcbacCcbasBzbafBxbaennaeCdcaKjDrbDqbBdcDqbaJxDsbaFaebaoebfbaccba" ++
  "BgdbakblakjkagbbaDvlbaYmxbybarCqbCpbEbkaEoDmkaEoCykaEoDnkaJmCroaJiDpkaBGqEhkaGvBibaCGlEodaCt" ++
  "ElcaHvDycabDybaBVeDabDzbDabDcbDzbDhbDfbEebDgbEfbCsbDzbEfcDzcEfbDjbEdbDzgEabDlbEcbDzbDkbDzeCz" ++
  "bDdbDbbDjcDebDdcEkbaHpCccaCcBebabEibaVsBlbaBfgbakDtbacCebaFqzbaEZmBvbayEmbDubakEgbaehbabDqba" ++
  "QmCnqabCibCjbCkbacCfbabChcCgcClgabCkbCliCkeakCoeacCkbDofabCkbaeCmcCfcaDlDoeadDobaDmClbDobaFr" ++
  "CfqaBgCfBmajCnbaBwCfBoaCeCfBxapCfmaBzCfbaDkCfzakCffaDsCfBfaBRIuDqbaFowiaLkCudCvdCwcCxbCwbaHb" ++
  "DibabCtbaCgBobaGeEjbaBFPmkcaGwmbakmbaCtCkcaKwClfakDobaBtDocaNoDxcDvbaeDwBtadDvjaQaiBcaDAkEnb" ++
  "aDBiCrbabCrbaCdCrcaETvCrcabCrbaCHJwEgeaIPwCfsaLRyCfc"

/-- The groups of scripts: for each its size and its scripts. -/
def sharedScripts : String :=
  "ccBwicBwCaChCzDwEfGkjcBwCaCuDqDrEfFyGghcBwChCzDwEfGkdcBwGkccCadcCaCjccCgdcCzGkccDwccEfccGkbd" ++
  "cdeqdfhwBgBhBlCgDcDpFcFhFjFpGbGeldfvxBlBqBwCyEpFjGbldfvBwCfCgCyDaDzFjGlidfvCfCgEnEpGbidfvCf" ++
  "DzEnEpGlfdfvCyGbedfGbGlcdhpdijklmpqsBdBkCtDvEtGfndijklmpqsBdBkDvEtddkBkhdlvBkDoEsGmgdoBgCgFh" ++
  "FjgdoBlBwCfCycdvddvBwedvCfCyedvCfDzddvGlddwBgjdxBlBwCgCyEpGbGlfdBgBwEnEsddBjGcddBlBwedBlBwCf" ++
  "ddBvDlcdBwddBwCfhdBwCfDaEnEsFjddBwEncdCcddCfEpcdCgcdCyddDaGlcdDocdDzcdEncdEsbfcfCgefCjFcFsbh" ++
  "jhnoBeBiBjCcDoEzihnoBeBiBjCcEzhhnoBiBjCcEzihnoBiBjCcEzGcfhnoBiCcghnoBiCcEzdhoBichBychCcxijkl" ++
  "mpqrsBbBdBhBkBoCtDyEkEoEtFfFkFpGjvijklmpqrsBbBdBhBkCtDyEkEoEtFfFpGjcikgipqsBdBkciBkqjmquBdBk" ++
  "CtDmDnDtEkEoEtFfFpGfpjmquBkCtDmDnDtEkEoEtFfFpGfljmBkDmDnDtEkEoEtFfFpmjmBkDmDnDtEkEoEtFfFpGfc" ++
  "jBplklpqrsuBdBkCtEteklqBkekquBkdkqBkckBkbldlsBkelsBkDvflsBkDvEtdluBkclBkelBkDvGfdlBkGfdlDiGj" ++
  "cmDmcoBidquCtcvBgcvGbdwBgBqgwBgCjFcFoFxhwCjDcDnDpEhFccBcBfdBcBfCodBcBfFecBjGcbBkdBkCtDveBkDn" ++
  "FfFpcBkDvdBkDvEtdBkDvGfcBkGfbBldBvDiEpbBwcCkDhbCteCxErFbFlcDcFxcDrFybEg"

end ContextCompiler.Text
