/-!
The general categories of all characters, as the character database gives them.
-/

namespace ContextCompiler.Text

/-- The categories by their numbers in the runs. -/
def categoryLetters : String :=
  "Cn Lu Ll Lo Mn Mc So Po Nd No Sm Lm Ps Pe Sk Lt Pd Nl Sc Cf Pi Pf Zs Cc Me Pc Zl Zp Cs Co"

/-- The runs of equal category. -/
def categoryRuns : String :=
  "xBgwbhdsbhdmbnbhbkbhbqbhcikhckdhcbBambhbnbobzbobcBambkbnbkbxBhwbhbsegbhbobgbdbubkbtbgbobgbkb" ++
  "jcobcbhcobjbdbvbjdhbbxkbbhcykbcibbcbbbcbbbcbbbcbbbcbbbcbbbcbbbcbbbcbbbcbbbcbbbcbbbcbbbcbbbcb" ++
  "bbcbbbcbbbcbbbcbbbcbbbcbbbcbbbcbbbcbbbcbbbcbbbcbbbccbbcbbbcbbbcbbbcbbbcbbbcbbbcbbbccbbcbbbcb" ++
  "bbcbbbcbbbcbbbcbbbcbbbcbbbcbbbcbbbcbbbcbbbcbbbcbbbcbbbcbbbcbbbcbbbcbbbcbbbcbbbcbbbcbbccbbbcb" ++
  "bbcdbccbbbcbbccbbdccbecbbccbbdcdbccbbccbbbcbbbcbbccbbbccbbcbbccbbdcbbbcbbcccdbbbcddebbpbcbbb" ++
  "pbcbbbpbcbbbcbbbcbbbcbbbcbbbcbbbcbbbcbbbccbbcbbbcbbbcbbbcbbbcbbbcbbbcbbbcbbbccbbpbcbbbcbbdcb" ++
  "bbcbbbcbbbcbbbcbbbcbbbcbbbcbbbcbbbcbbbcbbbcbbbcbbbcbbbcbbbcbbbcbbbcbbbcbbbcbbbcbbbcbbbcbbbcb" ++
  "bbcbbbcbbbcbbbcbbbcbbbchbccbbcccbbcbbecbbbcbbbcbbbcbbbcCrdccBalsoelmoolfohlboblboreEibbcbbbc" ++
  "blbobbbcbaclbcdhbbbaeocbbhbbdabbbabbccbbrabbjcBjbbccbdcdbbcbbbcbbbcbbbcbbbcbbbcbbbcbbbcbbbcb" ++
  "bbcbbbcbbbcfbbcbkbbbcbbcccbBzcBwbbcbbbcbbbcbbbcbbbcbbbcbbbcbbbcbbbcbbbcbbbcbbbcbbbcbbbcbbbcb" ++
  "bbcbbbcbgbefycbbcbbbcbbbcbbbcbbbcbbbcbbbcbbbcbbbcbbbcbbbcbbbcbbbcbbbcbbbcbbbcbbbcbbbcbbbcbbb" ++
  "cbbbcbbbcbbbcbbbcbbbcbbbcbbbcbbccbbbcbbbcbbbcbbbcbbbcbbbccbbcbbbcbbbcbbbcbbbcbbbcbbbcbbbcbbb" ++
  "cbbbcbbbcbbbcbbbcbbbcbbbcbbbcbbbcbbbcbbbcbbbcbbbcbbbcbbbcbbbcbbbcbbbcbbbcbbbcbbbcbbbcbbbcbbb" ++
  "cbbbcbbbcbbbcbbbcbbbcbbbcbbbcbbbcbbbcbbbcbbbcbbbcbbbcbbbcbbbcbbbcbabbBmaclbhgcBphbqbacgcsbab" ++
  "eBtqbebhbechbechbebaidBbaedehcaltgkdhcsbhcgcelhbtbhddBglbdkevikhedcebdDvhbdbehtbgbeglcecgbee" ++
  "dcikddgcdbhoabtbdbebdBeeBbacdDleldbaoikdBhejlcgbhdlbacebscdweelbejlbedlbefachpabdzedachbabdl" ++
  "afdyobdgabtcafejdBplbeytbeBgfbdCcebfbebdbfdeifeebfcdbehdkechcikhblbdpebfcabdiacdcacdwabdhabd" ++
  "baddeacebdbfdeeacfcacfcebdbaifbaedcabddecacikdcscjggbsbdbhbebacecfbabdgaedcacdwabdhabdcabdca" ++
  "bdcacebabfdecaeecacedadebahdeabdbahikecddebhbakecfbabdjabddabdwabdhabdcabdfacebdbfdefabecfba" ++
  "bfcebacdbapdcecacikhbsbahdbegabebfcabdiacdcacdwabdhabdcabdfacebdbfbebfbeeacfcacfcebahecfbaed" ++
  "cabddecacikgbdbjgakebdbabdgadddabdeaddcabdbabdcaddcadddaddmaefcebfcadfdabfdebacdbagfbaoikjdg" ++
  "gsbgbafebfdebdiabddabdxabdqacebdbedfeabedabeeahecabddacdbacdcecacikahhbjhgbdbebfchbdiabddabd" ++
  "xabdkabdfacebdbfbebffabebfcabfcecahfcagdcabdcecacikabdcfbamecfcdjabddabdBpecdbfdeeabfdabfdeb" ++
  "dbgbaeddfbjhddecacikjjgbdgabebfcabdsaddyabdjabdbacdhadebaefdedabebabfiagikacfchbamdBwebdceha" ++
  "esbdglbeihbikhcaBldcabdbabdfabdyabdbabdkebdcejdbacdfablbabehabikacdeaBgdbgdhpgbhbgdecggikjkg" ++
  "bebgbebgbebmbnbmbnbfcdiabdBkaeeofbefhbecdfelabeBkabgiebggabgchfgehcaBldBrfceefbegfbecfcecdbi" ++
  "khgdgfcecdeeddbfddcfhddeednebfcecfgebdbfbikfdebgcbBmabbbafbbaccBrhblbcddMrabdeacdhabdbabdeac" ++
  "dBpabdeacdBhabdeacdhabdbabdeacdpabdCfabdeacdCpacedhjjuaddqgkagbDiaccgacqbdXwgbhbdrwbdBambnba" ++
  "ddCxhdrddiahdsedfbajdtecfbhcajdsecamdnabddabecamdCaecfbehfiebfcelhdlbhdsbdbebacikagjkaghgqbh" ++
  "eedtbebikagdBjlbdCbahdfecdBiebdbafdCsakdBfabedfeecfdaefcebfgedaegbadhcikdBeacdfaldBsaedBaagi" ++
  "kjbadgBidxecfcebachcdCbfbebfbehabebfbebfceifgekacebikagikaghhlbhgaceoybeqaBxeefbdBvebfbeffbe" ++
  "bffebfcdiabhcikhhgkejgjhdecfbdBefbeefcecfbeddcikdBsebfbecfdebfbedfcaihedBkfieifcecadhfikaddd" ++
  "ikdBelghccjbbcbafbBracbdhiaiedhbenfbehdeebdgebdcfbecdbafcBslClcnlbcBilBleCmbbcbbbcbbbcbbbcbb" ++
  "bcbbbcbbbcbbbcbbbcbbbcbbbcbbbcbbbcbbbcbbbcbbbcbbbcbbbcbbbcbbbcbbbcbbbcbbbcbbbcbbbcbbbcbbbcbb" ++
  "bcbbbcbbbcbbbcbbbcbbbcbbbcbbbcbbbcbbbcbbbcbbbcbbbcbbbcbbbcbbbcbbbcbbbcbbbcbbbcbbbcbbbcbbbcbb" ++
  "bcbbbcbbbcbbbcbbbcbbbcbbbcbbbcbbbcbbbcbbbcbbbcbbbcbbbcbbbcbbbcbbbcbbbcbbbcbbbcbbbcbbbcbbbcbb" ++
  "bcbbbcjbbcbbbcbbbcbbbcbbbcbbbcbbbcbbbcbbbcbbbcbbbcbbbcbbbcbbbcbbbcbbbcbbbcbbbcbbbcbbbcbbbcbb" ++
  "bcbbbcbbbcbbbcbbbcbbbcbbbcbbbcbbbcbbbcbbbcbbbcbbbcbbbcbbbcbbbcbbbcbbbcbbbcbbbcbbbcbbbcbbbcbb" ++
  "bcbbbcbbbcbbbcbbbcjbicgacbgaccibicibicgacbgacciabbbabbbabbbabbbcibicoaccipicipicipicfabccbep" ++
  "bobcbodcdabccbepbodceacccbeabodcibfodaccdabccbepbocabwltfqghcubvbmbucvbmbubhiBabBbbtfwbhjubv" ++
  "bhezchdkbmbnbhlkbhbzbhkwbtfabtkjblbacjgkdmbnblbjkkdmbnbablnadsBhapenyeebydemapgcbbgebbgccbbd" ++
  "ccbdcbgbbbgckbbfggbbgbbbgbbbgbbegbcbbecbdecbgcccbckfbbcegbkbgccbgbjqrBjbbcbrejbgcaekfgfkcgek" ++
  "bgckbgckbghkbgBfkcgckbgbkbgBfkKigimbnbmbnbgukcghmbnbgDdkbgBekzgBokggCuawglavjCigDajwgHbkbgjk" ++
  "bgCckigEhkbgJombnbmbnbmbnbmbnbmbnbmbnbmbnbjBegBskfmbnbkBfmbnbmbnbmbnbmbnbmbnbkqgJwkFbmbnbmbn" ++
  "bmbnbmbnbmbnbmbnbmbnbmbnbmbnbmbnbmbnbkClmbnbmbnbkBgmbnbkJygBwkvgckggBnacgBgabgEbbBwcBwbbcbbd" ++
  "ccbbcbbbcbbbcbbecbbbccbbcglcbdcbbbcbbbcbbbcbbbcbbbcbbbcbbbcbbbcbbbcbbbcbbbcbbbcbbbcbbbcbbbcb" ++
  "bbcbbbcbbbcbbbcbbbcbbbcbbbcbbbcbbbcbbbcbbbcbbbcbbbcbbbcbbbcbbbcbbbcbbbcbbbcbbbcbbbcbbbcbbbcb" ++
  "bbcbbbcbbbcbbbcbbbcbbbcbbbcbbbcbbbcbbbcbbbccggbbcbbbcbedbbcbafhejbhccBmabcbafcbacdCeahlbhbao" ++
  "ebdxajdhabdhabdhabdhabdhabdhabdhabdhabeBghcubvbubvbhdubvbhbubvbhjqbhcqbhbubvbhcubvbmbnbmbnbm" ++
  "bnbmbnbhflbhkqcheqbhbmbhngchdmbnbmbnbmbnbmbnbqbaBigBaabgDlamgIgaBagqwbhdgblbdbrbmbnbmbnbmbnb" ++
  "mbnbmbnbgcmbnbmbnbmbnbmbnbqbmbncgbrjeefcqblfgcrdlbdbhbgcabdDiacecoclcdbqbdDmhblddbafdBrabdDq" ++
  "abgcjegkdBggBmajgbdqgBfabjkgBejigbjpgBgjkgBnjpgMidJTogCmdBFCflbdBRzadgCdajdBolghcdKilbhddqik" ++
  "dcaubbcbbbcbbbcbbbcbbbcbbbcbbbcbbbcbbbcbbbcbbbcbbbcbbbcbbbcbbbcbbbcbbbcbbbcbbbcbbbcbbbcbbbcb" ++
  "bbcbdbebydhbekhblbbbcbbbcbbbcbbbcbbbcbbbcbbbcbbbcbbbcbbbcbbbcbbbcbbbcbbbcblcecdCsrkechgaioxl" ++
  "jocbbcbbbcbbbcbbbcbbbcbbbcbbbcdbbcbbbcbbbcbbbcbbbcbbbcbbbcbbbcbbbcbbbcbbbcbbbcbbbcbbbcbbbcbb" ++
  "bcbbbcbbbcbbbcbbbcbbbcbbbcbbbcbbbcbbbcbbbcbbbcbbbcbbbcbbbcbbbcblbcibbcbbbcbbccbbbcbbbcbbbcbb" ++
  "bcblbocbbcbbbcbdbbbcbbbcdbbcbbbcbbbcbbbcbbbcbbbcbbbcbbbcbbbcbbbcbbfcbbfcbbbcbbbcbbbcbbbcbbbc" ++
  "bbbcbbbcbbecbbbcbbccbacbbcbabcbabcbbbcbbbcbbbcbbbavldbbcbdblccbdhebddebdeebdxfcecfbgeebadjgg" ++
  "csbgbagdCaheaifcdByfqecaihcikagesdghddbhbdcebikdBceihcdxelfcalhbdBdadedfbdBvebfceefcecfdhnab" ++
  "lbikaehcdfeblbdjikdfabdBpegfcecfcecajddebdiebfbacikachedqlbdggddbfbebfbdByebdbeddcecdfecdbeb" ++
  "dbaydclbhcdlfbecfchcdblcfbebakdgacdgacdgajdhabdhabcBroblecjlbocaecDcdBjfcebfcebfchbfbebacika" ++
  "gdQNsamdxaedBxaeBcDAuBdJMedOcacdEcaBmchamcfafdbebdkkbdnabdfabdbabdcabdcabdEeoraqdNznbmbgqdCm" ++
  "acdCcahgbaBgdmsbgdeqhhmbnbhbageqhbqczcmbnbmbnbmbnbmbnbmbnbmbnbmbnbmbnbhcmbnbhezdhdabheqbmbnb" ++
  "mbnbmbnbhdkbqbkdabhbsbhcaedfabdFfactbabhdsbhdmbnbhbkbhbqbhcikhckdhcbBambhbnbobzbobcBambkbnbk" ++
  "bmbnbhbmbnbhcdklbdBtlcdBfaddgacdgacdgacddadsckbobgbscabgbkegcaktdgcacdmabdBaabdtabdcabdpacdo" ++
  "aBidEtafhdaejBtadgjrCbjegrjcgdabgnadgbaBvgBtebaFadBdaddBxapebjBbaedBgjeajdurbdirbafdBmefafd" ++
  "BeabhbdBkaedihbrfaBqbBocBodDaacikagbBkaecBkaedBoaidCaalhbblabbpabbhabbcabclabcpabchabccaddCa" ++
  "amdLzajdwakdiaylgablBqabljaCrdgacdbabdBsabdcaddbacdxabhbjidxgcjhdBfaijjaBwdtabdcafjfdwjgadhb" ++
  "dBaafhbaCmdCeaejcdcjqacjBudbedabecafeedeabddabdBdacedaeebjjahhjahdBdjchbdBdjdaBgdigbdBcecaej" ++
  "fhhajdCcadhhdwacjidtafjidsahheamjhaDcdCvaCdbBzancBzahjgdBkeeaiikagikdelbdbbwadefqblbcwaikca" ++
  "IajBfabdBqabecqbacdcaqddaCdeedBdjkdbaidweljehfawdseeheaBmdvjhaudxajfbebfbdCbephhaejuikebdcec" ++
  "dbajedfbdBtfdeefcechctbheebaktbacdzahikageddBkeffbeiabikhedbfcdbaidBjebhcdbajecfbdBwfdejfcde" ++
  "heeehbfbebikdbhbdbhdabjualdsabdzfdedfcebfbechgebdcebaCkdhabdbabdeabdpabdkhbagdBvebfdeiafikag" ++
  "ecfcabdiacdcacdwabdhabdcabdfabecdbfcebfeacfcacfdacdbagfbafdffcacehadefaldkabdbacdbabdBmabdbf" ++
  "degabfbacfbabfeabfcebfbebdbebdbhcabhcaiecaBddCbfdeifcedfbebdehfikhcabhbebddaBedBwfdegfbebfee" ++
  "cfbecdchbdbaiikaGkdBvfdeeacfeecfbechxdeecaBidBwfdeifcebfbechddbalikaghnatdBrebfbebfcegfbebdb" ++
  "hbagikagiuaBcdBbacebfbebfceefbefaeikjchdgbdhaHddBsfdejfbechbaDwbBgcBgikjjamdiacdbacdiabdcabd" ++
  "yfgabfcacecfbebdbfbdbfbebhdajikaCsdiacdBnfdeeacecfeebdbhbdbfbaBbdbekdBoegfbdbeehiebaidbegfce" ++
  "ddBuenfbechddbhfandCvahhkaHadBhhbaoikagdjabdBlfbehabegfbebdbhfakikjtadhcdBeacewabfbehfbecfbe" ++
  "caCvdhabdcabdBmegadebabecabehdbebaiikagdgabdcabdBgffabecabfcebfbebdbahikaLydtecfchcahecdbfbd" ++
  "nabdBifcefadfcebfbebhnikebaDhdbapjvgisegranhbdBJmaDyrEhabhfaldHoaDXkdDthcandBPgtqebdgepakd" ++
  "FXrafdWlaKDddBeemfdedikaCOsdVxahdBfabikaehcdDbabikagdBeacefhbakdBwehhfgelehbgbakikabjhabdvaf" ++
  "dtaQqlddBolchdikaHqbBgcBgjxheaDxdCxaeebdbfCdaheelnaCmlchblbebalfcaodJCaaidBVqaBpdkaNFrleablh" ++
  "ablcabdLfapdbaBdddacdbaodeaidPgaDKudEdafdnaddjahdkacgbechbteaFVggJgikaggQuaCyeBuacexajgEmaCi" ++
  "gJmakgBnacgCifcedgdfgtieigcehgBeeegCjavgCoedgbaEsjuamjuamgDjajjzaFfbBacBabBachabcsbBacBabbab" ++
  "bcacbbacbcacbeabbiceabcbabchabclbBacBabcabbeacbiabbhabcBabcabbeabbfabbbadbhabcBabBacBabBacBa" ++
  "bBacBabBacBabBacBabBacBcacbzkbczkbcgbzkbczkbcgbzkbczkbcgbzkbczkbcgbzkbczkbcgbbcbaciBygTseCdg" ++
  "eeBygiebgoebgchfapefabepaBQmckdbcuagcgaIfehaberacehabecabefaflCkaBhebaEidBtadehlhacikaedbgba" ++
  "MidBeebardBseeikafsbaRwdBblbeeikaIgdBeecdbikaehbaSmdhabdeabdcabdpabdHpacjjehaBpbBicBiehlbaei" ++
  "kaehcaBEfjChgbjdsbjeaCyjBtgbjpaHmdeabdBbabdcabdbacdbabdkabdeabdbabdbagdbaedbabdbabdbabddabdc" ++
  "abdbacdbabdbabdbabdbabdbabdcabdbacdeabdhabdeabdeabdbabdkabdrafddabdfabdraCakcaKkgBsaegDwamgp" ++
  "acgpabgpabgBlakjngGfaCegBdangBsaegjahgcaoggaFygJrofgBCaaegradgnadgEpaegDraggmaegbapgmaegCeai" ++
  "gkaggBoaigBeacgmaegcaCkgNcamgoacgnadgkafgCeahgpacglaggjahgFrabgDoikaBNqdCLFcaBgdGDuagdIoacd" ++
  "INqaodLBlapdXyaDQwdUwaCFydHHzafdGFgaBOMXltbaBetDsaEyeJgaDSFoBdDSYoacBdDSYo"

end ContextCompiler.Text
