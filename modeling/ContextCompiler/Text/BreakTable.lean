import ContextCompiler.Text.Runs

/-!
How characters part texts into clusters, words and sentences, and since when they are assigned, as
the character database gives it.
-/

namespace ContextCompiler.Text.BreakTable

/-- The versions of the character set. The first stands for none. -/
def versions : List String :=
  ["NA", "1.1", "2.0", "2.1", "3.0", "3.1", "3.2", "4.0", "4.1", "5.0", "5.1", "5.2",
   "6.0", "6.1", "6.2", "6.3", "7.0", "8.0", "9.0", "10.0", "11.0", "12.0", "12.1", "13.0",
   "14.0", "15.0", "15.1", "16.0"]

/-- The versions that brought the characters. -/
def ages : Runs := .read <|
  "bTieebBeeigbhbeshdiljobDlefhcbBvebbkefhrbCsejgbhiifhdbcebgnkebckcacbbjdbbqbaebhabbbabbuabbBs" ++
  "kbbhebgcbbebbbebbbebbbebbsfcgbhfieebbmebbCoebbmebbBpkbecgceebCbgcbcgcbcgcjbbBcecbiicbcjggqje" ++
  "kqlcmcqiabbBmacbhubbBnubbbebacqcnbabcribcnbkjbbjcbidaibBbaeubbfalhenbqbkfibbbhjkfbbpbybibbbm" ++
  "bbBakfbtedhdigmbbogcbCuecbfebbpebbBehcbkefhbeoabeBehdeBbachdiBekseBxgbaojChacudlBuaclpabmBca" ++
  "cmbabtlafyBfabycafBbbyinbqbnlqgrcybsixkylubsprbnBbqblbbdhbbCbmcbslbmbbflbmcbzkcmfqblcjcibjcq" ++
  "bbdabbiacbcacbwabbhabbbadbeacbbhbbhacbcacbdibaibbaebcabbfacbvlbtcubachbbbhbabbgaebcacbwabbha" ++
  "bbcabbcabbcacbbabbfaebcacbdadkbahbeabbbahbpkbubakbdabbhhbbbabbdabbwabbhabbcabbfacbkabbdabbda" ++
  "cbbapbbhdacbknbhbahrbtgabbdabbiacbcacbwabbhabbcabhbbeacbikbacbcacbdahxbbcaebcabbdkcacblhbmga" ++
  "kbcabbgadbdabbeadbcabbbabbcadbcadbdadbiibbdaebfadbdabbeackbagbbaoibbmhiafqbbdubbiabbdabbxabb" ++
  "kqbbfacybkbbhabbdabbeahbcabkcrbacybacbckcacbkahvbkisbqbbcubbiabbdabbxabbkabbfachcbhabbdabbea" ++
  "hbcagybbbabbcjcacbkabjczbamtbqbbcxbbiabbdabbxmbbqmbtckbbgkbabbdabbembsbaesdbbshrbbckcacbkkgs" ++
  "dkhabxbecabesadeyabejabebacehadebaeegabebabeiagqkacedambCgaebBdaBlbcabbbabvbbcvbbbabvbbbvgbe" ++
  "vbbhvbbdabbbabbbvcbcvbbnvbbdacbfabbbabbgzbabbkacbcncaBgcCuabcBhebkcaecBbmecgebcbabcvedchebcb" ++
  "edabepabkbebickdlemcaBleBikbefkbeckbehkdeekgeBakCmlekcbBmabnbafnbacbBngcicbbibndbDmlfbCqlfb" ++
  "DelgehibeClibebabeeacehabebabeeaceBnibebabeeaceBfibebabeeacehabebabeeacehibehabexibeBfibebab" ++
  "eeacehibeBnibetacmciceBcadiBaageDhrbacrgaclbeYgljeBdadeDdqiahgnybghybajybgxajguamgnabgdabgca" ++
  "meDphbacekaghkagepybekageDkubaheBqkbaflCsakhBdqcabhmaehmaehbadhBqachfaliBqlcaeiBaagiklbadich" ++
  "BgiBcaciclClablBdacllaglkagloacqpxcyoaBxjCyybabBbcjBtycBbbkBrndkmngmCaaimekCeadkpadkBzsjBbca" ++
  "fuBracudniailBjnetbqcvbafhEeiDkjhkBcqpteybsbmblbjcbFzcbkebDmkgbwacbgacbBmacbgacbiabbbabbbabb" ++
  "babbBfacbCbabbpabboacbgabbtacbdabbjabbBvebbxgbeggfhcicgbihgfkbabpebhgbacbBbabifmiadblcbdbedg" ++
  "cieldmbobqdrbtbybapbsecghibjekbapbCfechbibgpibjckbldbBwebjbkelbrcaebDnejgmbJigobbebbErebgbe" ++
  "BegCahciljmlbmlqhsetbbBlecBbdawblavbFjguhbbFugkbDceigibuhcgcibebbDiecgmicgkhiilkblchciqjbkkl" ++
  "dkelkmbltmblbmelyqbbembbemcbBcmbbBjmbbbmbbemdbblbbhmcbhgobBfmdbymbbombihjenbkbnbmcgBckegqeJw" ++
  "gTshoigjhkfjekBpqdkflfqBaacqBgabxbqBiudqmvbqitbuzreupvbiBvybiBvybjnkdlbkdjekglciEdlhncafiBta" ++
  "bnbafnbaciCcncahibmbaombixajihabihabihabihabihabihabihabihabkBgiykeicktlbnkqhsctfufvbxdylaBi" ++
  "eBaabeDlameIgaBaemBaebCeedgdebbbabbDggcacbggcbDqgbafbBokbtbubabbDqabbqeymdxfiqkuBbcajBabgqb" ++
  "BdhcabbBklmhbgpbBchcibbBygpbmhebBvwbbEphebDvhcbBfhbeJTexkhCmbBEXyiwkilinbrjtvufxnydeBSvadesg" ++
  "ceqgbemgbedgbebajlBwkLoaukBgmcksnikBcqgrbnblDkaiixjekfjckEdmcrbmcncqmmknbqdsbubqcrgucvgycvfx" ++
  "eBbdacycabybabyfBbdavydxcqbncmbkfiBsxbadlkagjCeaikCrsbaikmaglBcrcuckDgalkblBdadlDaabllaelcq" ++
  "BfabkCdajkoackkackelBcqelCpaylfnxakmgacmgacmgajmhabmhabqBwreqcvcxeaerDclBuaclkagcQNsamlxael" ++
  "BxaecDAubJXuncgChldaciEcaBmbhambfafebbzabbfabbbabbcabbcabbEemqybaqbObyqbCmacbCcahybfBgbmgbhb" ++
  "ycgqikagbekdqhrcbvgchcbkabbtabbeaebdgbbbabbFfacbbabbDqgcbDqadbgacbgacbgacbdadbhabbhakeddbbdh" ++
  "mabhBaabhtabhcabhpachoaBihEtafhdaehBtadhjiCxqcscabkmxbadqbaBvkBuaFakBdadkBxapqBcaefBfqbfeajt" ++
  "dfBbafqBrafhBeabhbiBkaeioaBqfBmhcfBmhDcachkagsBkaesBkaeqBoaiqCaalqbylabypabyhabycabylabypaby" ++
  "habycadBbCaamqLzajqwakqiayygabyBqabyjaCrhgachbabhBsabhcadhbachblwabljqClaiqjaBwrtabrcafrfjBa" ++
  "lcadjbkBaafkbaCmnCeaercncrqacrBuieabicafiiabidabiBbucacidaeijubahijahlBgqBgaBgqBnaeqmajlCcad" ++
  "lBdaclBbafliqsahqeamqhaDclCvaCdrBzanrBzahrguBoaiukagBbBmadBbBdaiBbcaIalBfabxBqabxdacxcaqBbda" ++
  "CdBbbzduBoaiuBqawyBaaBmxBcauvxajmDaaemBeygajqblCoybakubacnzahnkagnCbabnoudxbaiqBnajnCvreqbxc" ++
  "nkqbrfabqualqsabqBrsbzdaCkrhabrbabreabrpabrlagqChafqkagrbqdabqiacqcacqwabqhabqcabqfabubqjacq" ++
  "cacqdacrbagqbafqhacqhadqfalBbkabBbbacBbbabBbBmabBbkabBbbacBbbabBbeabBbkabBbcaiBbcaBdsDmxbsba" ++
  "bsbubvbxcaBeqCuaiqkaGkqCcacqsruaBiqCralqkagsnatnCevbybagnkagBbuaBcrBaubacrpaerqyhaHduCiaDwq" ++
  "DfamqbxhacxbacxiabxcabxBeabxcacxmajxkaCsviacvBuacvlaBbtCuaitCavctxubtfanyqqCfahzkaHaBbBiaoBb" ++
  "kagsjabsBtabsoaksBdadsBgacswabsoaCvthabtcabtBsadtbabtcabtjaitkagugabucabuBlabucabugahukaLyuz" ++
  "ahzrabzBpadzBcBbbaDhxbapvByanvbjBHvqBqrbaDyjDvqmabjeqbalrHoaDXkyDvanlBPfzbvjzBdakBbFXrafrWla" ++
  "KDdBbCgaCOsmVxahqBfabqkaeqcyDbabykagqBeacqgakqCsakqkabqhabqvafqtaQqBbCgaHquDnaDxnCrvgaevbnBv" ++
  "vjahnraCmsbtbvcxbalxcaosJBpufvgaisBDbxSpaBpBbbxjaNFryeabyhabycabmctKzyeapzbaBdvdaczbaoveait" ++
  "PgaDKuqEdafqnadqjahqkacqiaFVgBbJqagBbQuaCyyBuacyxajyEmaCifJmakfBnackbfGyrlycaviCsaEszuamuuam" ++
  "hDjajjsuhaFffDhabfCtabfcacfbacfcacfeabfmabfbabfehbfcabfCnabfeacfiabfhabfBcabfeabffabfbadfhab" ++
  "fNaicacfLejcacfByrZcaprfabrpaBQmyBfagzgaIfshabsracshabscabsfafzCkaBhzbaEivBtadvoacvkaevcaMiy" ++
  "BfarvCgafvbaRwzBqaIgBbBraeBbbaSmyhabyeabycabypabqHpacqqaBpsCxvbaeskaescaBEfuCqaCyvCjaHmneabn" ++
  "Bbabncabnbacnbabnkabneabnbabnbagnbaenbabnbabnbabndabncabnbacnbabnbabnbabnbabnbabncabnbacneab" ++
  "nhabneabneabnbabnkabnrafndabnfabnraCancaKkkBsaekDwammpacmoqbabmpabmpqwakllqcxdlBfubmblbmllbm" ++
  "blbmclbmdlbmdlfmilbmhlbmkncvbxdmjlbmblcmclbmklemclbmkssxbaCemBalbmcanlBimjsbaeljahmcaotgaFym" ++
  "BhqmrdmgqbmCsqbrcmuqmmBlqbmfqerfqmmrqhrimClqbmbqbmHaqbmeqcrbmCkqcneqhrfmyqssbqBpsbqDimfnbmqn" ++
  "bmdnbmbnbmbnbmbnbmdnbmgncmenbmbncmenbmmqcrcmlqBwmCsqkrbsctcvbxcaezbydqnadqesdtcubvbxcadmEmzd" ++
  "aezfqDhuezbagvmaeybapqmaeqCeaiqkagqBoaiqBeacxcBbkaeBbcaCktmxbvdrjsgtbsitisbtcsmvbsmtbudsptnu" ++
  "fvbxbuexcybubvbuerfsntgulxcvgxdvcukvgrbucvixbybvdtxuzvDgamuoacvexbzdvdycadvdxezcBbbafBbbvgxt" ++
  "yezdxhyezdBbbzbxdydBbbahzcxhydzcBbbacBbbyizbBbbagyhzcahxFrabxCdBbBlxkaBNoccfCLEtxhycaBglGDpy" ++
  "ezbagmIoacrINqaotLBlapBaXyaDQwfUwaCFwccxHHzafzGFgaDFLeccaDSYoccaDSYoccaDSYoccaDSYoccaDSYocca" ++
  "DSYoccaDSYoccaDSYoccaDSYoccaDSYoccabfbaBefDsaEyhJgaDSFmcHLXi"

/-- The parts of clusters; Hangul syllables count as syllables without a final consonant. -/
def clusters : Runs := .read <|
  "dkjbdcibdsaDrdBhandbaWwbEiaKpbhaKdbBtabbbabbcabbcabbbaCeegakblabdbaBubvaqbbaDxbhebabbgacbcab" ++
  "beaBhebabbbaBebBbaDnblaCgbjajbbaybeabbjabbdabbfaBrbdaCaecafbjaBqbyebbBgcbaCcbbcbbbabcdbicebb" ++
  "ccabbhakbcaBdbbccaCebbabbbccbeacccacccbbajbbakbcaBabbacbccbaCebbabcdbcaebcacbdadbbaBebcadbba" ++
  "lbccbaCebbabcdbfabbccbabccbbaubcawbgabbbccaCebbabbccbbeacccacccbbahbdakbcaBebbaChbbcbbbccadc" ++
  "dabcdbbajbbaBobbcdbbaCdbbabbdceabbdabbeahbcalbcaBdbbccaCebbabcbbccbbbccabbdabbeahbcalbcapcba" ++
  "mbcccaCdbcabbbccbeabcdabcdbbebaibbakbcaBdbbccaCsbbaebbccbdabbbabchbbasccaCjbbabcbbhambiaDubb" ++
  "abcbbjalbhaCvbcaBbbbabbbabbbaeccaBxbocbbfabbcafblabbBkajbbaDybecbbgabbcccbcaxccbcaebdaqbeanb" ++
  "babcbbcagbbapbbaDufDsgCuhDkaNlbdaBKkbeaBcbdaBdbcaBebcaCmbccbbhcibbccblajbbaBtbddbbbaEnbcaBib" ++
  "baEobdcebccdaeccbbcgbdaIlbcccbbaCfcbbbcbbhabbbabbbacbicgbkacbbaBwbBfaBxbecbaBvbkcebdaBmbjamb" ++
  "ccbaBecbbeccbgaCebbcbbccdbbcbbfaBwcibiccbcaFwbdabbncbbhaebbagbbaccbbcaHqbCmaUddbbblbdcaydha" ++
  "BxdqaDsbBhaEOcbdaFlbbaDsbBgaVibgaEbbcaBSQebeabbkaBgbcaDcbcaKmbbadbbaebbaxccbccbaebbaDfccaByc" ++
  "qbcaBabsanbbaBmbiazblcbbbamfBdadbdcbaBvbbccbeccbcccbbaBkbbaCpbgccbcccbcambbaibbcbaBubbaBzbba" ++
  "bbdacbcafbcabbbaBpcbbcccafcbbbaJcccbbccbbccabcbbbasmQNsamgxaehBxaedDAuaKHabbaBCjbqaqbqaHzdba" ++
  "GcbcaDcdmaTtbbaIsbbaFtbfaCMgbdabbcafbeaBobdaebbaGjbcaWbbeaCnbfaMfbcaDbbeaCsblaBxbeaEscbbbcba" ++
  "CbbpaBpbbacbcakbdcbaBtcdbeccbcacebaebbakebaBybdaBkbfcbbiaqccaBsbbambccbaBwcdbjcbbbabecafbeab" ++
  "cbbbaDocdbdccbeagbbacbbaGbbbcdbiavbcccaCdbcabbbcbbbceacccacccbbajbbakccacbhadbfaCpbbccbgabbb" ++
  "acbbabbdcbabccbdebbbaobcaDecdbiccbdcbbbaxbbaDdbbccbgcbbbccbbcbbccbbcaJbbbccbeaccebccbbcaBbbc" ++
  "aDecdbiccbbcbbcaEcbbcbbbccbiaDxbdacbecbbfaJwcdbjcbbcaJlbbcfabccacbeebcbebcbbbaFlcdbeacbccebb" ++
  "adcbaBcbkaBobgcbebbeaibbajbgccbdaBoegbncbbcaPpcbbhabbgcbbbaDebwabcbbhcbbccbbcaEsbgadbbabbcab" ++
  "bhebbbaCocfabbcabccbbcbbbaNjbcccajbcebcbaBwccbfadccbdaxbbaHXddqbbagbpaQYybmcdbdaDSabfaChbha" ++
  "VkgbadgeaSqbbabcCdahbeaDdbbalbcaBDAxbcabdeaGYubBuacbxaUwbfadbgdibiacbhaBebeaFsbdaCYdbCdaebBy" ++
  "aibbaobbawbfabbpaCAibhabbracbhabbcabbfaDwbbaGebhaOlbbaCjbeaTobeaJubcaBCibhaEfbhaDGtkBaaTnbfa" ++
  "BSXXodBgbDsdEybJgdFIm"

/-- The parts of words. -/
def words : Runs := .read <|
  "aknblcmbasrbabobaepbaekbabibabdkjbkbafbBaaehbabbBaaklbaBkbbacebahbbabjbacbbafbxabbBfabbSmagb" ++
  "BicEibfabbcacbekbbbagbbjbbdabbbabbuabbDfabbFjabchbGkabbBmacbeabbbjbbBpkbbbagcBtabcbabccabcca" ++
  "bcbaifBbaefebbjbalegagkcacclabebadbBrcvdkabdbkbabbccbbDvabbbchebabcgbcccabcebcdkbdacbbapebbb" ++
  "cbbBecBbacbDlclbbaodkbBhcjbcackbabbbaccbacbwcebbcjbbcdbbcfasbzcdaeblafbyabbgabecafcjbBqcyebc" ++
  "BhbCccdbbcsbbchbkccacdkabbqcdabbiacbcacbwabbhabbbadbeaccbbbchacccaccdbbaicbaebcabbdccacdkbca" ++
  "kbbabcbaccdabbgaebcacbwabbhabbcabbcabbcaccbabcfaeccaccdadcbahbeabbbahdkccbdcbalcdabbjabbdabb" ++
  "wabbhabbcabbfaccbbbciabcdabcdacbbapbcccacdkajbbcgabcdabbiacbcacbwabbhabbcabbfaccbbbchacccacc" ++
  "dahcdaebcabbdccacdkabbbaqcbbbabbgadbdabbeadbcabbbabbcadbcadbdadbmaecfadcdabceacbbagcbaodkaqc" ++
  "fbiabbdabbxabbqaccbbbchabcdabceahccabbdacbbacbcccacdkaqbbcdabbiabbdabbxabbkabbfaccbbbchabcda" ++
  "bceahccagbcabbcccacdkabbccbamcebjabbdabbBpccbbchabcdabcebbafbdcbahbdccacdkakbgabcdabbsadbyab" ++
  "bjabbbacbhadcbaecgabcbabciagdkacccaCjcbacchamciabdkaDjcbaccjalchabdkaBmbbaxccagdkalcbabcbabc" ++
  "baeccbiabbBkaecuabccbfclabcBkajcbaDwcuabdkamceaecdabcdacchadceancmabcbdkceacbBmabbbafbbacbBr" ++
  "abbMvabbeacbhabbbabbeacbBpabbeacbBhabbeacbhabbbabbeacbpabbCfabbeacbCpaccdaBgbqaqbDiacbgadbXw" ++
  "acbrrbbBaafbCxadblahbsceajbtcdalbsccambnabbdabccaCmcBgajcbacdkaBhcdebcbdkagbDlahbfccbBicbbba" ++
  "fbCsakbBfabcmaecmakdkaEydkaBmbxcfaCfckabcBdaccbdkagdkawcBfaBxcfbBvcrbiaddkarcjamcdbBecnbcdkb" ++
  "BscoambBkcuaidkadbddkbBkacblafbBracbdaqcdabcvbecbbgcbbccdbbafbHkcCmbKsacbgacbBmacbgacbiabbba" ++
  "bbbabbbabbBfacbCbabbhabbbadbdabbhadbeacbgaebnafbdabbhadrhabrdabcbsbecaiicakibacjblcefhbaphca" ++
  "dkbaphbakrbefabekabbbanbbaqbnaBzcBharbbaebbacbkabbbadbfagbbabbbabbbabbeabblacbeafbfaebbarbBp" ++
  "aBFhbCaaCRubIvagbecdbcambBmabbbafbbacbCeahbbapcbbxajbhabbhabbhabbhabbhabbhabbhabbhabcBgaBvbb" ++
  "aRwrbaebbaBkcgabgfafbcaDoccgcadgDnabgeafbBrabbDqarbBgaBwgqaIagBvabgDkaBPDwbBSvaCpbBuacbKjadb" ++
  "qdkbcaubBvceabckabbBfccbDcccawbHqacbcabbbabbiavbqcbbdcbbecbbxcfaecbatbCaamccbBycsakdkagcsbga" ++
  "dbbabbccbdkbBcciacbxcnambBdadcebBvcoaobbdkalcbakdkagbBpcoajbdcbbiccacdkaBhcdaBycbabcdacccafc" ++
  "cabcbaBeblcfacbdccakbgacbgacbgajbhabbhabbCgagbElciabccacdkagbQNsambxaebBxaNGubhambfaffbcbfka" ++
  "bfnabffabfbabfcabfcabfkbDuaBhbNzasbCmacbCcaBobmaecqkbacjbkbalcqadhcayhdkbabibabkbjbaBabfabb" ++
  "FfacebahibaekbabibabdkjbkbafbBaaehbabbBaalgCeccbBfadbgacbgacbgacbdaBcedaebmabbBaabbtabbcabbp" ++
  "acboaBibEtaCrbCbaFgcbaFabBdadbBxapcbaBfbBganbBeafbBmcfafbBeacbBkaebiabbfaBqbGcacdkagbBkaebBk" ++
  "aebBoaibCaamblabbpabbhabbcabblabbpabbhabbcadbCaambLzajbwakbiaybgabbBqabbjaCrbgacbbabbBsabbca" ++
  "dbbacbxakbxajbBfaCnbtabbcakbwakbBaaCsbCeagbcaCmbbcdabccafcebeabbdabbBdaccdaecbaBgbBdadbBdaBj" ++
  "biabbBcccazbCcakbwakbtanbsaEgbCvaCdbBzanbBzanbBkceaidkagdkbBcadcfabbxaJqbBqabccadbcaqbdaCdce" ++
  "bBdakbbaibwclaBfbsceaBqbvaBbbxajcdbCbcpaBfdkcbbcccbbajcebBtclacebaecbakebacbzahdkagcdbBkcoab" ++
  "dkaebbccbbaibBjcbacbbajcdbBwcobeaeceabccdkbbabbbaBjbsabbzcmagcbbccbaCkbhabbbabbeabbpabbkahb" ++
  "BvcmafdkagceabbiacbcacbwabbhabbcabbfabccbbchacccaccdacbbagcbafbfccacchadcfalbkabbbacbbabbBma" ++
  "bbbcjabcbaccbabceabcfbbcbbbanccaBdbCbcsbeafdkaecbbdaBebBwcubcabbbaidkaGkbBvchaccjaxbeccaBib" ++
  "BwcradbbaldkaBmbBrcnbbahdkagduaCfcpaedkaHqbBscpaDxbCmdkavbiacbbacbiabbcabbycgabccaccebbcbbbc" ++
  "camdkaCsbiacbBnchacchbbabbbcbaBbbbckbBochbbceaicbaibbclbBucqadbbasbCvaHrbBhapdkagbjabbBlciab" ++
  "cibbapdkaybBeaccwabcoaCvbhabbcabbBmcgadcbabccabchbbcbaidkagbgabbcabbBgcfabccabcfbbahdkaLybtc" ++
  "eajccbbcbbnabbBichadcfandkcbaDhbbaDbbBJmaDybEharbHoaDXkbDtapbBPgeqcbbgcpakbFXrafbWlaKDdbBecs" ++
  "dkaCOsbVxahbBfabdkagbDbabdkagbBeaccfalbBwchajbeamdkajbvafbtaQqbBtaddkaHqbCmaEybCxaecbbbcCdah" ++
  "cebnaCmbcabbbcbalccaYGcgeabghabgcabgbaLbgdaBygbaogeaEAibEdafbnadbjahbkadccabeeaGEmdkaTycBuac" ++
  "cxaUwcfadcgeiciacchaBeceaFscdaRbbDhabbCtabbcacbbacbcacbeabbmabbbabbhabbCnabbeacbiabbhabbBcab" ++
  "beabbfabbbadbhabbNcacbzabbzabbBfabbzabbBfabbzabbBfabbzabbBfabbzabbiacdByaTscCdaecByaicbaocba" ++
  "wcfabcpaBQmbBfagbgaIfchabcracchabccabcfafbCkaBhcbaEibBtadchbhacdkaebbaMjbBecbarbBscedkaScbBc" ++
  "cedkaIgbBeccbbdkaSrbhabbeabbcabbpabbHpalchaBpbCqchbbaedkaBTubeabbBbabbcabbbacbbabbkabbeabbba" ++
  "bbbagbbaebbabbbabbbabbdabbcabbbacbbabbbabbbabbbabbbabbcabbbacbeabbhabbeabbeabbbabbkabbrafbda" ++
  "bbfabbraYebBaagbBaagbBaaDoqBaaTncfaDAedkaBSUXbebaBecDsaEycJg"

/-- The parts of sentences. -/
def sentences : Runs := .read <|
  "ajkbnbkcmbaskbibhbaehdacjclbabfkjbaeibabcBahbabhbadbBahbabhbahobaBakbajbbhbabgbahbbaebbhbaec" ++
  "xabchbyabbicbbbcbbbcbbbcbbbcbbbcbbbcbbbcbbbcbbbcbbbcbbbcbbbcbbbcbbbcbbbcbbbcbbbcbbbcbbbcbbbc" ++
  "bbbcbbbcbbbcbbbcbbbcbbbcbbbcbbccbbbcbbbcbbbcbbbcbbbcbbbcbbbcbbccbbbcbbbcbbbcbbbcbbbcbbbcbbbc" ++
  "bbbcbbbcbbbcbbbcbbbcbbbcbbbcbbbcbbbcbbbcbbbcbbbcbbbcbbbcbbbcbbbccbbcbbbcbbdccbbcbbbccbbcdbcc" ++
  "ebbccbbcdbdccbbccbbcbbbcbbbccbbcbbccbbbccbbcdbbcbbbccbcdbcbbddeccbbccbbccbbcbbbcbbbcbbbcbbbc" ++
  "bbbcbbbcbbbcbbccbbbcbbbcbbbcbbbcbbbcbbbcbbbcbbbcbbcccbbcbbbcdbbcbbbcbbbcbbbcbbbcbbbcbbbcbbbc" ++
  "bbbcbbbcbbbcbbbcbbbcbbbcbbbcbbbcbbbcbbbcbbbcbbbcbbbcbbbcbbbcbbbcbbbcbbbcbbbcbbbcbbbcbbhccbbc" ++
  "cbccbbbcebbcbbbcbbbcbbbcbbCrdbbBkdhbcaedmaobfahdbabdbareEicbbbcbbbdbabcbbbacbeabcbagcbabcdab" ++
  "cbabccbbcrabcjbBjcbbccdbdcbbbcbbbcbbbcbbbcbbbcbbbcbbbcbbbcbbbcbbbcbbbcbbfcbbbabcbbbccbccBzb" ++
  "Bwcbbbcbbbcbbbcbbbcbbbcbbbcbbbcbbbcbbbcbbbcbbbcbbbcbbbcbbbcbbbcbbbcbbbabehcbbbcbbbcbbbcbbbcb" ++
  "bbcbbbcbbbcbbbcbbbcbbbcbbbcbbbcbbbcbbbcbbbcbbbcbbbcbbbcbbbcbbbcbbbcbbbcbbbcbbbcbbbcbbbcbbbcc" ++
  "bbcbbbcbbbcbbbcbbbcbbbcbbccbbbcbbbcbbbcbbbcbbbcbbbcbbbcbbbcbbbcbbbcbbbcbbbcbbbcbbbcbbbcbbbcb" ++
  "bbcbbbcbbbcbbbcbbbcbbbcbbbcbbbcbbbcbbbcbbbcbbbcbbbcbbbcbbbcbbbcbbbcbbbcbbbcbbbcbbbcbbbcbbbcb" ++
  "bbcbbbcbbbcbbbcbbbcbbbcbbbcbbbcbbbabcBmacdbadjbacbBpibaheBtabebabecabecabebaidBbaedfamggagjc" ++
  "acelabgbiddBrevfkabfcabdcebdDvibdbehgbabegdcecabeedcfkddacdbidamgbdbebdBeeBbacdDleldbaofkdBh" ++
  "ejdcacjbibdbacebacdweedbejdbeddbefajibabibadicabdzedaedlafdyabdgabgcafejdBqeygbeBhdCceddbesd" ++
  "behdkecicfkabdqedabdiacdcacdwabdhabdbaddeacebdbehacecaceddbaiebaedcabddecacfkdcakdbabebaceda" ++
  "bdgaedcacdwabdhabdcabdcabdcacebabefaeecacedadebahdeabdbahfkecddebaledabdjabddabdwabdhabdcabd" ++
  "facebdbeiabedabedacdbapdcecacfkajdbegabedabdiacdcacdwabdhabdcabdfacebdbehacecacedahedaedcabd" ++
  "decacfkabdbaqebdbabdgadddabdeaddcabdbabdcaddcadddaddmaeefadedabeeacdbagebaofkaqefdiabddabdxa" ++
  "bdqacebdbehabedabeeahecabddacdbacdcecacfkaqdbedabdiabddabdxabdkabdfacebdbehabedabeeahecagdca" ++
  "bdcecacfkabdcebameedjabddabdBpecdbehabedabeedbafddebahddecacfkakdgabedabdsaddyabdjabdbacdhad" ++
  "ebaeegabebabeiagfkacecandBwebdcehafdheiabfkaBndcabdbabdfabdyabdbabdkebdcejdbacdfabdbabehabfk" ++
  "acdeaBgdbaxecagfkalebabebabebheecdiabdBkaeeuabecdfelabeBkajebaCfdBreudbfkicaedgeedeeddbeddce" ++
  "hddeednemdbebfkeeaccBmabcbafcbacdBrabbbdMuabdeacdhabdbabdeacdBpabdeacdBhabdeacdhabdbabdeacdp" ++
  "abdCfabdeacdCpacedacibaeicaxdqaqcDiacbgaddXwabibdrkbdBahcaddCxaddlahdseeajdtedicajdsecamdnab" ++
  "ddabecamdCaeBgaddbaedbebacfkayjbibaejbibabedgbebfkagdDlahdfecdBiebdbafdCsakdBfabemaeemaiicfk" ++
  "dBeacdfaldBsaedBaagfkaBmdxefaedCbekabeBdacebfkagfkandbieaeeBfaBxefdBverdiabicfkicacicalejaji" ++
  "deddBeendcfkdBseoamdBkeuadicadfkadddfkdBkicbjcbbbafdBracddaqedabevdeebdgebdceddbafbHkeCmcbbb" ++
  "cbbbcbbbcbbbcbbbcbbbcbbbcbbbcbbbcbbbcbbbcbbbcbbbcbbbcbbbcbbbcbbbcbbbcbbbcbbbcbbbcbbbcbbbcbbb" ++
  "cbbbcbbbcbbbcbbbcbbbcbbbcbbbcbbbcbbbcbbbcbbbcbbbcbbbcbbbcbbbcbbbcbbbcbbbcbbbcbbbcbbbcbbbcbbb" ++
  "cbbbcbbbcbbbcbbbcbbbcbbbcbbbcbbbcbbbcbbbcbbbcbbbcbbbcbbbcbbbcbbbcbbbcbbbcbbbcbbbcbbbcbbbcbbb" ++
  "cbbbcbbbcbbbcbbbcbbjcbbbcbbbcbbbcbbbcbbbcbbbcbbbcbbbcbbbcbbbcbbbcbbbcbbbcbbbcbbbcbbbcbbbcbbb" ++
  "cbbbcbbbcbbbcbbbcbbbcbbbcbbbcbbbcbbbcbbbcbbbcbbbcbbbcbbbcbbbcbbbcbbbcbbbcbbbcbbbcbbbcbbbcbbb" ++
  "cbbbcbbbcbbbcbbbcbbbcbbbcbbbcbbjcibgaccgacbicibicibgaccgacbiabcbabcbabcbabcbbiciboacbicibici" ++
  "bicibfabbccfabbbadbdabbccfadbeacbcceaebicfafbdabbccfadklgbecgcadjcadhiaelbadocgfkbajhcabicah" ++
  "hcidavkbgfabgkabbbalhcbbanhcabbnaBzeBharcbaecbacbbcdbccdbbabcbadcfagcbabcbabcbabceabbbcebbde" ++
  "bbacbcccafcbbeaebbarcqbqddcbbbdeaOtheaBdhcaPfcBabBaaYbhgahhoaDbhcaBfhkaPnhwaClheaBghcaTucBwb" ++
  "Bwcbbbcdbccbbbcbbbcbbbcebbcbbccbbicdbbcbbbcbbbcbbbcbbbcbbbcbbbcbbbcbbbcbbbcbbbcbbbcbbbcbbbcb" ++
  "bbcbbbcbbbcbbbcbbbcbbbcbbbcbbbcbbbcbbbcbbbcbbbcbbbcbbbcbbbcbbbcbbbcbbbcbbbcbbbcbbbcbbbcbbbcb" ++
  "bbcbbbcbbbcbbbcbbbcbbbcbbbcbbbcbbbcbbbcbbbcbbbcbbcagcbbbcbbbedcbbbambBmabbbafbbacdCeahdbapeb" ++
  "dxajdhabdhabdhabdhabdhabdhabdhabdhabeBghoaohcachkaeibdbamibafhbaqichiaQdkbjbibacddhkachiabhd" ++
  "abdjegabdfacdfaedDiacecacddabdDmabdeafdBrabdDqardBgaBwdqaTsdJToaCmdBGUfaCpdBuabibdKjabicdqfk" ++
  "dcaucbbbcbbbcbbbcbbbcbbbcbbbcbbbcbbbcbbbcbbbcbbbcbbbcbbbcbbbcbbbcbbbcbbbcbbbcbbbcbbbcbbbcbbb" ++
  "cbbbdbeeabekabdbcbbbcbbbcbbbcbbbcbbbcbbbcbbbcbbbcbbbcbbbcbbbcbbbcbbbcbbdecdDcecabibadibaBfdj" ++
  "accbbbcbbbcbbbcbbbcbbbcbbbcbbdcbbbcbbbcbbbcbbbcbbbcbbbcbbbcbbbcbbbcbbbcbbbcbbbcbbbcbbbcbbbcb" ++
  "bbcbbbcbbbcbbbcbbbcbbbcbbbcbbbcbbbcbbbcbbbcbbbcbbbcbbbcbbbcbbkcbbbcbbbccbbcbbbcbbbcbbbcbbbdb" ++
  "accbbbcbbbdbcbbbcbbdcbbbcbbbcbbbcbbbcbbbcbbbcbbbcbbbcbbbcbbbcfbbcfbbcbbbcbbbcbbbcbbbcbbbcbbb" ++
  "cbbbcebbcbbbccbbaccbbbabbbabbbcbbbcbbbcbbbcbavbdcbbbdbbddhebddebdeebdxefaeebatdCaacicaiecdBy" ++
  "esaiicfkagesdgaddbabdcebfkdBceiabibdxenamdBdadeedBveoahicafdbfkagdfebdkfkdfabdBpeoajddebdiec" ++
  "acfkadiddxaddbeddByebdbeddcecdfecdbebdbayddacdleficddecakdgacdgacdgajdhabdhabbBrabboagbDcdBj" ++
  "eiibecacfkagdQNsamdxaedBxaMNcdOcacdEcaBmbhambfafdbebdkabdnabdfabdbabdcabdcabdEeaBhdNzhcaqdCm" ++
  "acdCcaBodmaeeqjcabjbadhcaheqabjcachqachcahjclbacjbicjbhgaejbamdfabdFfacgbabibaghcacjclbabfkj" ++
  "baeibabcBahbabhbadbBahbabhbabhcibhcjbabdCeecdBfaddgacdgacdgacddaBcgdaedmabdBaabdtabdcabdpacd" ++
  "oaBidEtaCrdCbaFgebaFadBdaddBxapebaBfdBgandBeafdBmefafdBeacdBkaediabdfaBqcBobBodDaacfkagcBkae" ++
  "bBkaedBoaidCaamclabcpabchabccabblabbpabbhabbcaddCaamdLzajdwakdiaybbdcbdabbBqabbjaCrdgacdbabd" ++
  "BsabdcaddbacdxakdxajdBfaCndtabdcakdwakdBaaCsdCeagdcaCmdbedabecafeedeabddabdBdacedaeebawicaid" ++
  "BdaddBdaBjdiabdBcecazdCcakdwakdtandsaEgdCvaCdcBzanbBzandBkeeaifkagfkdgcwadefabdbbwaJqdBqabec" ++
  "addcaqddaCdeedBdakdbaidwelaeifawdseeieaBmdvaBbdxajeddCbepicaBdfkebdcecdbajeedBtelacgbieebakg" ++
  "bacdzahfkageddBkeoabfkabiddbecdbaidBjebacdbajeddBweodeicaceeibecfkdbabdbabicaBgdsabdzemicabi" ++
  "cabebdcebaCkdhabdbabdeabdpabdkibagdBvemaffkageeabdiacdcacdwabdhabdcabdfabecdbehacecacedacdba" ++
  "gebafdfecacehadefaldkabdbacdbabdBmabdbejabebacebabeeabefdbebdbicalecaBddCbesdeicadfkaeebdda" ++
  "BedBweudcabdbaifkaGkdBvehacejabicafipdeecaBidBwericabdbalfkaBmdBrendbahfkagfuaBcdBbacepaefka" ++
  "cidabdhaHddBsepaDxcBgbBgfkavdiacdbacdiabdcabdyegabecaceedbebdbecibabibajfkaCsdiacdBnehacehdb" ++
  "abdbebaBbdbekdBoehdbeeadicadebaidbeldBueqabicdbasdCvaHrdBhapfkagdjabdBleiabeidbicanfkaydBeac" ++
  "ewabeoaCvdhabdcabdBmegadebabecabehdbebaifkagdgabdcabdBgefabecabefdbahfkaLydteeicahecdbebdnab" ++
  "dBiehadeficalfkebaDhdbaDbdBJmaDydEhardHoaDXkdDtapdBPggqebdgepakdFXrafdWlaKDddBeesfkaCOsdVxah" ++
  "dBfabfkaeicdDbabfkagdBeacefibakdBwehicahdeibalfkajdvafdtaQqdBtabicfkaHqcBgbBgayibaDzdCxaeebd" ++
  "beCdaheednaCmdcabdbebalecaodJCaaidBVqaBpdkaNFrdeabdhabdcabdLfapdbaBdddacdbaodeaidPgaDKudEdaf" ++
  "dnaddjahdkadecibgeaGEmfkaTyeBuacexaUwefadeggieiacehaBeeeaFsedaRbcBabBacBabhabbscBabBacbabcca" ++
  "ccbacccacceabcibeabbbabbhabblcBabBaccabceacciabchabbBaccabceabcfabcbadchabbBacBabBacBabBacBa" ++
  "bBacBabBacBabBacBabBcacczabbzabbgczabbzabbgczabbzabbgczabbzabbgczabbzabbgcbbbacfByaTseCdaee" ++
  "ByaiebaoebadibasefabepaBQmbkdbbuagbgaIfehaberacehabecabefafbCkaBhebaEidBtadehdhacfkaedbaMjd" ++
  "BeebardBseefkaScdBceefkaIgdBeecdbfkaSrdhabdeabdcabdpabdHpalehaBpcBibBiehdbaefkaBTudeabdBbabd" ++
  "cabdbacdbabdkabdeabdbabdbagdbaedbabdbabdbabddabdcabdbacdbabdbabdbabdbabdbabdcabdbacdeabdhabd" ++
  "eabdeabdbabdkabdrafddabdfabdraYecBaagcBaagcBaaBWmhdaCBvfkaBNqdCLFcaBgdGDuagdIoacdINqaodLBlap" ++
  "dXyaDQwdUwaCFydHHzafdGFgaBOMXlgbaBeeDsaEyeJg"

end ContextCompiler.Text.BreakTable
