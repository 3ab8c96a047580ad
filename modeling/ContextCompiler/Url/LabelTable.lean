import ContextCompiler.Text.Runs

/-!
How characters count in the names of hosts, as the standard for international names gives it.
-/

namespace ContextCompiler.LabelTable

/-- How the characters are taken: as they are (0), for nothing (1), not at all (2), or for others
(3). -/
def uses : Text.Runs := .read <|
  "aCndBaaBlcBgdbahdbabdbacbbabdbacdeacddabddabdxabdhaBhdbabdbabdbabdbabdbabdbabdbabdbabdbabdba" ++
  "bdbabdbabdbabdbabdbabdbabdbabdbabdbabdbabdbabdbabdbabdbabdbabddabdbacdbabdbabdbabddabdbabdba" ++
  "bdbabdcabdbabdbabdbabdbabdbabdbabdbabdbabdbabdbabdbabdbabdbabdbabdbabdbabdbabdbabdbabdbabdba" ++
  "bdbabdcabdbabdbabdbabdcabdbabdcabddacdeabdcabddaddcabdcabdbabdbabdcabdbacdbabdcabddabdbabdca" ++
  "ddbahdkabdbabdbabdbabdbabdbabdbabdbacdbabdbabdbabdbabdbabdbabdbabdbabdbacdeabddabdbabdbabdba" ++
  "bdbabdbabdbabdbabdbabdbabdbabdbabdbabdbabdbabdbabdbabdbabdbabdbabdbabdbabdbabdbabdbabdbabdba" ++
  "bdbabdbabdbahdcabdcacdbabdeabdbabdbabdbabdbaDtdjaBfdgacdfaDndcabddajbbaBgdbabdbabdbabdbabccd" ++
  "baddccedhcbdbcbdcabdrcbdjaBjdiabdbabdbabdbabdbabdbabdbabdbabdbabdbabdbabdbabdbabddabdcabdbab" ++
  "dcacdBzaBwdbabdbabdbabdbabdbabdbabdbabdbabdbabdbabdbabdbabdbabdbabdbabdbabdbajdbabdbabdbabdb" ++
  "abdbabdbabdbabdbabdbabdbabdbabdbabdbabdbabdbabdbabdbabdbabdbabdbabdbabdbabdbabdbabdbabdbabdb" ++
  "abdcabdbabdbabdbabdbabdbabdbacdbabdbabdbabdbabdbabdbabdbabdbabdbabdbabdbabdbabdbabdbabdbabdb" ++
  "abdbabdbabdbabdbabdbabdbabdbabdbabdbabdbabdbabdbabdbabdbabdbabdbabdbabdbabdbabdbabdbabdbabdb" ++
  "abdbabdbabdbabdbabdbabdbabdbabdbabdbabcbdBmccaBudbadccadcbaCdciaBbceagcrawcbaDkdeaDwcbaBwcca" ++
  "ChccaDxcoaChccaBxccapcbaBcccabcbalcfaBfciaCxcbaEndiaBkcbaiccacccawcbahcbabcdaeccajccacccaeci" ++
  "abcedccbdbaeccazccadcbagceacccawcbahcbabdbcbabdbcbacccabcbafceacccadcdabchddabcbdbcharckadcb" ++
  "ajcbadcbawcbahcbaccbafccakcbadcbadccabcpaeccamchahcbadcbaiccacccawcbahcbaccbafccajccacccadch" ++
  "adcedccbafccasckaccbagcdadcbaecdaccbabcbaccdaccdadcdamceafcdadcbaeccabcgabcoavcfancbadcbaxcb" ++
  "aqccajcbadcbaechaccbadccabccaeccakchawcbadcbaxcbakcbafccajcbadcbaechaccgaccbaeccakcbadcmancb" ++
  "adcbaBzcbadcbagceaqccaBacbadcbascdaycbajcbabccahcdabceagcbabcbaicgakccadcmaBydbahceaBdcBlacc" ++
  "babcbafcbaycbabcbamdbakccafcbabcbahcbakccdcaccBgamdbaCcdbaecbaedbaedbaedbaedbamdbadceacdbabd" ++
  "fahdbardbaecbaedbaedbaedbaedbamdbadcbapcbancBlaGedBmcbdbcfdbccaBsdbaDubcaIycbaeccahcbabcbaec" ++
  "caBpcbaeccaBhcbaeccahcbabcbaeccapcbaCfcbaeccaCpccaBgcdaBacgaDiccdgccaYqcbaBccdaDlchawcjaycja" ++
  "ucmancbadcbaccmaCabcaBoccakcgakcgalbfakcgaDlchaBrcfaCsckaBfcbamceamceabcdaBqccafclaBsceaBacg" ++
  "alcdaCkccaCncbaBdccalcgakcgaoccaBfcBxaCzcbaGkciaCicdapcdaBzdkabcfdBrccddaiciaBrcfaBsddabdlab" ++
  "dsabdBcandbaBidBlaCmdbabdbabdbabdbabdbabdbabdbabdbabdbabdbabdbabdbabdbabdbabdbabdbabdbabdbab" ++
  "dbabdbabdbabdbabdbabdbabdbabdbabdbabdbabdbabdbabdbabdbabdbabdbabdbabdbabdbabdbabdbabdbabdbab" ++
  "dbabdbabdbabdbabdbabdbabdbabdbabdbabdbabdbabdbabdbabdbabdbabdbabdbabdbabdbabdbabdbabdbabdbab" ++
  "dbabdbabdbabdbabdbabdbabdbabdbabdbabdbabdbafdcacdbabdbabdbabdbabdbabdbabdbabdbabdbabdbabdbab" ++
  "dbabdbabdbabdbabdbabdbabdbabdbabdbabdbabdbabdbabdbabdbabdbabdbabdbabdbabdbabdbabdbabdbabdbab" ++
  "dbabdbabdbabdbabdbabdbabdbabdbabdbabdbabdbabdbabdbabdbabdbajdiagccdgccaidiaidiagccdgccaicbdb" ++
  "cbdbcbdbcbdbaidiabdbabdbabdbabdbabdbabdbabdbccdBwacddcbabdocbabdjaddbccacdecbddaddbaediccddc" ++
  "babdicbdlbbacccabdbafdbamcdabchdbaddcabdcaedbabdbaiddandbahdbbfcfbgdcccdBbcbdncdaidbaycpaBhc" ++
  "pdeabddabdlabdcacdfacddabdbabdbabdbabdeabdlabdgaedfagdBwaddbafdbacceaGadcabdcaJodcaJvcwalcvd" ++
  "BocudDbaBYndbaDzddaDxdbaFvccaBgcbaEbdBwaBwdbabddacdbabdbabdbabdeabdbacdbagdfabdbabdbabdbabdb" ++
  "abdbabdbabdbabdbabdbabdbabdbabdbabdbabdbabdbabdbabdbabdbabdbabdbabdbabdbabdbabdbabdbabdbabdb" ++
  "abdbabdbabdbabdbabdbabdbabdbabdbabdbabdbabdbabdbabdbabdbabdbabdbabdbabdbabdbabdbabdbabdbaidb" ++
  "abdbaedbabcfaBtcbabcfabccaCechdbabcoaycjahcbahcbahcbahcbahcbahcbahcbahcbaEwcBiaBacbaedbaDfdb" ++
  "cmdIgcBqdbabdbaBzdbabddafcbaDiccacdcacdbaDrdbcfaBrcbdBzbbdBqcbacdoaCsckaqdBfcbdBoaidBvabdMkc" ++
  "bdecbdqcbdBnaBQQfcdaCdcjaNkcudbabdbabdbabdbabdbabdbabdbabdbabdbabdbabdbabdbabdbabdbabdbabdba" ++
  "bdbabdbabdbabdbabdbabdbabdbatdbabdbabdbabdbabdbabdbabdbabdbabdbabdbabdbabdbabdbabdbabdcaDmci" ++
  "aBidbabdbabdbabdbabdbabdbabdbaddbabdbabdbabdbabdbabdbabdbabdbabdbabdbabdbabdbabdbabdbabdbabd" ++
  "babdbabdbabdbabdbabdbabdbabdbabdbabdbabdbabdbabdbabdbabdbabdbabdbaidbabdbabdcabdbabdbabdbabd" ++
  "baedbabdbacdbabdbaddbabdbabdbabdbabdbabdbabdbabdbabdbabdbabdfabdfabdbabdbabdbabdbabdbabdbabd" ++
  "babdeabdbabdcabccdbabcbabcbabdbabdbabdbabdbcvdeacdcaBzcdakcgaCeciaCsciamcgaEmclaBecdaDacbalc" ++
  "eaBhcbaCdcjaoccakccaDzcyaBcckagccagccagcjahcbahcbaBsdeajdbaccedDcaBuccakcgaQNscmaxceaBxcMNcd" ++
  "KkacdbabdbacdkabdbabdbacdcaddCqccdEccBmdhcmdfcfdbabdycbdfcbdbcbdccbdccbdEearcqdNzasdCmccdCcc" ++
  "habcBgdnadbqdccbdgchaqcbduacdlccdtcbdeceddabdbcbdFfccbbcbdGdbbdBecddgccdgccdgccddcddhcbdhcra" ++
  "mcbaBacbatcbaccbapccaocBiaEtcfadceaBtcdaDkcbancdabcBvaBucFaaBdcdaBxcpaBcceaBkcjaBecfaBrcfaBe" ++
  "cbaBlceaocBqdBoaEoccakcgdBkceaBkceaBociaCaclabdlcbdpcbdhcbdccbalcbapcbahcbaccdaCacmaLzcjawck" ++
  "aicyabdfcbdBqcbdjcCragccabcbaBscbaccdabccaxcbaCuciajcBwatcbaccfaBhcdaBbcfabcCmaCeceauccaBycb" ++
  "accfaicbadcbaBdccadceakchajchaCmcBgaBnceamcjaCccdaBdccaBbcfaBachaecmahcDcaCvcCddBzcnaBzchaBu" ++
  "ciakcgaqdwcdaBdciaccIaaBfcbaBqcbadccaccqadcCdaBsciaBqcwaBacBmaBccuaxcjaDaceaBkcjaCkcbafcnazc" ++
  "hakcgaCbcbasciaBncjaDscbauclascbaBvcCkahcbabcbaecbapcbalcgaChcfakcgaecbaiccacccawcbahcbaccba" ++
  "fcbakccacccadccabcgabcfahccahcdafclakcbabccabcbaBmcbakcbabccabcbaecbakcbacciaccBdaDocbafcBea" ++
  "CuciakcGkaCcccaBmcBiaCrclakcganctaCgcgakcgaucBcaBbccapceaxcHdaCicDwdBgaBzcmaiccabccaicbaccba" ++
  "BecbacccamcjakcCsaiccaBuccalcBbaCuciaDfcnaCvchakcHaaBicoakcgajcbaBtcbaockaBdcdaBgccawcbaocCv" ++
  "ahcbaccbaBscdabcbaccbajciakcgagcbaccbaBlcbaccbagchakcLyazcharcbaBpcdaBdcDhabcpaBycnaBJncDya" ++
  "EhcbafclaHocDXkaDvcnaBPgcqawckaFXrcfaWlcKDdaCgcCOsaVxchaBfcbakceaDdcbakcgaBeccagckaCsckakcba" ++
  "hcbavcfatcQqaCgcHqdBgaChcDxaCxceaCfcharcCmafclaccoaJCaciaBVqcBpakcNFraecbahcbaccbaLfcpabcBda" ++
  "dccabcoaeciaPgcDKuaEdcfancdajchakccaebecFVgaIgdBkcgaQucCyaBuccaxcjaEmcCiaJmckaBnccaCbdhaobia" ++
  "CmdgaBqcvaCscEsaucmaucmaDjcjazcFfdDhcbdCtcbdcccdbccdcccdecbdmcbdbcbdhcbdCncbdeccdicbdhcbdBcc" ++
  "bdecbdfcbdbcddhcbdNcccdLgccdByaZccpafcbapcBQmaBfcgagcIfahcbarccahcbaccbafcfdCkcBhabcEiaBtcda" ++
  "occakceaccMiaBfcraCgcfabcRwaBqcIgaBrceabcSmahcbaecbaccbapcbaHpccaqcBpdBiaBqceakceaccBEfaCqc" ++
  "CyaCjcHmdecbdBbcbdccbdbccdbcbdkcbdecbdbcbdbcgdbcedbcbdbcbdbcbddcbdccbdbccdbcbdbcbdbcbdbcbdbc" ++
  "bdccbdbccdecbdhcbdecbdecbdbcbdkcbdrcfddcbdfcbdrcCaaccKkaBsceaDwcmapccapcbapcbaBlcldkafdBfabd" ++
  "BgaBaddaBjdbaBdcCeaBaddcndBscedjchdccoagcFyaBLwcearcdancdaEpceaDrcgamceabcpamceaCeciakcgaBoc" ++
  "iaBeccamceaccCkaNccmaoccancdakcfaCechapccalcgajchaFrcbaDodkcBNqaCLFccBgaGDucgaIoccaINqcoaLBl" ++
  "cpaXycDQwdUwcCFyaHHzcfaGFgcBONHgbJgcLECu"

/-- What characters stand for, in the order of those characters. Either a number of characters
and their common distance from what they stand for, twice and one less where that comes before; or
zero, a number, and so many characters. -/
def targets : String :=
  "BaCmbJvacBgBDwbFpacBgBDscJvacBgBDpbCHqacBgBFbbKlbFtadBxMFsCaadBxMFsByadBzMFsCaBeCmycacEbBDva" ++
  "cEbEcacEbEcfcacEeHbacEeHbecacBAyEgxcbJhdcbUpbQeccbPwbccPubcbGcbPobPqbcbPubPybQgbQcbcbQgbQkb" ++
  "QmdcbQubcbQubcbQubccQsccbQwccacDwOsacDwOsacDwOsacEeEcacEeEcacEeEcacEgEcacEgEcacEgEcrcacDwEsa" ++
  "cDwEsacDwEsbcbHlbEhucbJzjcbBFYkbcbMnbBFYebcbOzbFibFmfcbBSxbFtbBSxbBSjbEnbElbEbbBShbBSfacBg" ++
  "BDuacBgBDvacBgBDyacBgBFcacBgBDracBgBDzbJpbBWjbBVxbBVpbGbcExbDracBDwBDpbIyccbOjbcacBgBKrbCMfb" ++
  "IyacBgBDpadBgBDwBDpbCybCDjdCwbEycEwBaCmbqbChbBxbzblbrbBdbBrmcbEdbDrbDpbEpbExbcbEdbcdJzqGeBg" ++
  "CmBscbBeCdcBmDsacCBdCCgacCIpCLoacCJwCLoacCOtCLoacCJyCLoacDLlDMyacDLmDMyacDLnDMyacDLsDMyacDLx" ++
  "DMyacDLyDMyacDMhDMyacDMlDMyacDQvDRwacDQwDRwacDRjDRwacDWkDWuacDWqDWuacDViDWuacDVjDWuacDVoDWua" ++
  "cDWdDWuacEFpEGqacEFqEGqacFKvFJuacFPtFOsacFOlFNtacFOlFObbbacFUgFYtacFUqFYtacFUvFYtacFVaFYtac" ++
  "FVfFYtacFUeFYracFWbFWcacFWbFWeacFYoFWqadFYoFWbFWqacFYpFWqadFYpFWbFWqacFWbFWqacFXiFYtacFXsFYt" ++
  "acFXxFYtacFYcFYtacFYhFYtacFXgFYrBoVMubClgpbSKpbSKnbSJvcSJrbSJtbSJfbSHjbEAIwbcBuIXjbVUzbVKvd" ++
  "VVbbUSfiVVbbVVdbUNrbVVfbVVdcVVbbVUzbVWtcUKtbFfbVWzcVWxbUKncUKlbVXbbVWxbVWvbVFvbVWvbULpcEtb" ++
  "VXbcVWvbEpbUKbbVWzbEfdTLlcTKdbVYnbVXxcVXtcTMdbTLdcTKvbTCvbURhbWDlbURfbVStbUQvbWDnbUQtbUQrb" ++
  "UQldUQhbDjbUMnbUQhbCvbUMpbUQfbUQjeUQhbUQdcUPlbVGdcUPdbLzcUPfbWEbdUPbbTSnCxcacDtBBabElbWNtBwc" ++
  "BwpbVAvbVAxbVAzbVBbbUYzbUZbbUZdacLTgBKracLThBKracLTiBKracLTjBKracLTkBKracLTlBKracLTmBKracLTn" ++
  "BKracLTgBKracLThBKracLTiBKracLTjBKracLTkBKracLTlBKracLTmBKracLTnBKracLUmBKracLUnBKracLUoBKra" ++
  "cLUpBKracLUqBKracLUrBKracLUsBKracLUtBKracLUmBKracLUnBKracLUoBKracLUpBKracLUqBKracLUrBKracLUs" ++
  "BKracLUtBKracLWyBKracLWzBKracLXaBKracLXbBKracLXcBKracLXdBKracLXeBKracLXfBKracLWyBKracLWzBKra" ++
  "cLXaBKracLXbBKracLXcBKracLXdBKracLXeBKracLXfBKracLXoBKracBKjBKracBKeBKracMAgBKrcpbFrbVGnac" ++
  "BKjBKracBgBEhbVFtacBgBEhacBgBGcadBgBDwBGcacLXsBKracBKpBKracBKgBKracMAwBKrbGpbVHnbGpbVHpacBKp" ++
  "BKradBgBEhBDoadBgBEhBDpadBgBEhBGcbVKncpbHrbVItadBgBEiBDoadBgBEiBDpadBgBEiBGcbVJhcpbIpbVHrbna" ++
  "dBgBDwBDoadBgBDwBDpbXXlacLYaBKracBLhBKracBLmBKracMCsBKrbJvbVIvbJrbVIvacBLhBKracBgBDpacBgBEib" ++
  "YDrbYDtbYDvbYDxbYDzbYEbbYEdbYEfbYEhbYEjbYElbbacBgBFnbYHhacMFaMFaadMFaMFaMFaacMFdMFdadMFdMFd" ++
  "MFdacBhBhacBgBDtacClClacClBhacBhClaeMFaMFaMFaMFabYKzbYLbbYGtgYLbbYMfbBFibYKzcYMrbYHlkYMhbYNl" ++
  "bBEcbYMfcYNxbYJtbYJnbYIvbYIfbWXhbYJpeYJlbYJjcYJfacEkEladDtBvDvadDtBvElbYSjacGuDvadDvBvEhadDv" ++
  "BvEnbXFzacGuDycYSrbYStbYSvbYSxbYEhbYSzbYTbbYSxcYSzacEgEhdYTdbYTfbYThacElEfadEmDxEeacEmEfbYTf" ++
  "bWGfbYTnbYUvbYLndYVrcYVtbCebYVjbYVheUTlbYWdadDyDtEqbWIpbWJrbWJtbWIvbQcbYXlcYXncYXhadBxMFsCda" ++
  "dBxMFsCfaeBxMFsBxBwadBxMFsBzadByMFsBzadBxMFsCbadByMFsCbadBzMFsCbadCaMFsCbadBxMFsCcadCbMFsCca" ++
  "dBxMFsCeadBzMFsCeadCbMFsCeadCdMFsCeacBxMFsbYZdacEbEbadEbEbEbacEbEobYYlacEoEbadEoEbEbaeEoEbEb" ++
  "EbacEbEqbYYracEqEbadEqEbEbbYZvcZApbYZzbZAjacEbEbadEbEbEbacEbEobYZracEoEbadEoEbEbaeEoEbEbEbac" ++
  "EbEqbYZxacEqEbadEqEbEbbZBbcZBvbZBfbcadBwMFsBzacMYlMYladMYlMYlMYlacMYoMYoadMYoMYoMYocJTmjBBKn" ++
  "acBxBwacBxBxacBxByacBxBzacBxCaacBxCbacBxCcacBxCdacBxCeacBxCfacByBwadBoBxBpadBoByBpadBoBzBpad" ++
  "BoCaBpadBoCbBpadBoCcBpadBoCdBpadBoCeBpadBoCfBpaeBoBxBwBpaeBoBxBxBpaeBoBxByBpaeBoBxBzBpaeBoBx" ++
  "CaBpaeBoBxCbBpaeBoBxCcBpaeBoBxCdBpaeBoBxCeBpaeBoBxCfBpaeBoByBwBpadBoDtBpadBoDuBpadBoDvBpadBo" ++
  "DwBpadBoDxBpadBoDyBpadBoDzBpadBoEaBpadBoEbBpadBoEcBpadBoEdBpadBoEeBpadBoEfBpadBoEgBpadBoEhBp" ++
  "adBoEiBpadBoEjBpadBoEkBpadBoElBpadBoEmBpadBoEnBpadBoEoBpadBoEpBpadBoEqBpadBoErBpadBoEsBpBa" ++
  "BBNlBaBBPlbBBVfaeMYlMYlMYlMYladCgCgCjacCjCjadCjCjCjacQGbBFsBwDsbcbBFUjbLHjbBFTddcbBFXfbBFUvb" ++
  "BFXlbBFXjccbBHJvbBHIzcBFZxCbcbBbbBUIubDHIubXMmbXPmbXQmbXRcbXTabXWibXWubXYgbYAebZXsbBAAobBAAy" ++
  "bBACqbBAEcbBAFqbBAJqbBALebBALybBAXubBBEybBBHabBBHibBBJobBBKebBBMebBBNcbBBOybBBSwbBBUebBBWeb" ++
  "BECgbBEHsbBFRabBFSsbBFTgbBFUabBFVibBGBcbBHLsbBHPibBHYmbBIAebBIBobBIDebBIHgbBIHkbBJJebBJJwb" ++
  "BJKsbBJLqbBJUmbBJVabBJVibBKEgbBKEybBKFwbBKGkbBKLabBKMgbBKNobBKTqbBMMgbBMPsbBMRgbBOWcbBOWkb" ++
  "BPCsbBPDwbBPEubBPGibBPJgbBPJobBQEabBQFubBQIebBTIgbBTNgbBTOybBTTibBTVcbBTVsbBTWebBUAcbBUAkb" ++
  "BUCubBXHsbBYQabBYQwbBYRebBYRkbBYRybBYTgbBYTibBYZmbBZQabBZQibCAQibCARabCAUubCAVgbCAVwbCAWkb" ++
  "CBDibCBDubCBVgbCBVsbCBZkbCCAqbCCEebCCWibCCWubCCYabCDXcbCEGsbCEHcbCEVabCFBqbCFFcbCGIcbCGSgb" ++
  "CIKibCIMibCIQqbCIUmbCIZqbCJAkbCJAubCJDgbCJJabCJJsbCKKgbCKKsbCKLibCKLybCKNcbCKOebCKOkbCKUkb" ++
  "CKUqbCKVabCNSkbCNUqbCPEqbCPFmbCPHebCQCwbCQDubCQJebCQMqbCSEebCSFgbCSGibCSIybCSLsbCTAybCTBub" ++
  "CTGwbCTZwbCUCebCUSebCUTsbCUUabCVKwbCVYybCWImbCWIwbCWJebCZCybCZDobCZPmbDABgbDABkbDAEybDAMyb" ++
  "DANwbDAOcbDAOobDAWabDAYobDAYybDAZybDBMsbDBQobDBQubDCEubDCEybDCGibDCZqbDDDgbDDDsbDDJabDDJsb" ++
  "DDJwbDDKobDDMubDERcbDFVubDFWmbDFZibDGAybDGBmbDGCebDGCkbDGFkbDGFqbDGGwbDGHebDGIcbDGKcbDGLeb" ++
  "DGLsbDGQebDGRgbDGRmbBKGtbBKFvbCtbBANycBAOcacBgSKnacBgSKoacSJwSJyacSLnSMicYJxbXWzbYJzcXWzdYKd" ++
  "gXXbbYJbdYKrbYIvkYKtvYEtcYMjcXYtbXYnbXYlbXYdbXXxbXXvbYMlbXXrbXXpcYMpbYMncYMlbYMfbYMdfYMbbYLx" ++
  "bYLrbYKzbYKnbYKfcXXpdYJpcYGjbYGfcYFpbYFnbYEvbYErbVNwbVYobVOkbBCGabVOibVQybVOgbBZFebVUcbVPcb" ++
  "VNebBDYubBCLwbWBeadBoGLkBpadBoGLmBpadBoGLnBpadBoGLpBpadBoGLqBpadBoGLrBpadBoGLtBpadBoGLvBpad" ++
  "BoGLwBpadBoGLyBpadBoGLzBpadBoGMaBpadBoGMbBpadBoGMcBpadBoCNDoBpadBoCOWuBpadBoCPTkBpadBoCRMqBp" ++
  "adBoCSJgBpadBoCTFwBpadBoCUZcBpadBoCWSiBpadBoCXOyBpadBoCZIeBpadBoDAEuBpadBoDBBkBpadBoDBYaBpad" ++
  "BoDCUqBpadBoCYCyBpaeBoCXAyCXTkBpaeBoCXAyDDIqBpadBoBDOaBpadBoBDTkBpadBoBDOjBpadBoBGXfBpadBo" ++
  "BDTsBpadBoBEVtBpadBoBDOdBpadBoBEVrBpadBoBDRpBpadBoBFNtBpadBoBNAmBpadBoBQOxBpadBoBOZkBpadBo" ++
  "BNBsBpadBoCDFtBpadBoBGZvBpadBoBMPhBpadBoBNLqBpadBoBNAnBpadBoBTXuBpadBoBFVpBpadBoBRJdBpadBo" ++
  "CBGrBpadBoBTYzBpadBoBFIiBpadBoBDWtBpadBoBFZwBpadBoBIPyBpadBoBTApBpadBoBDXxBpadBoCBIdBpadBo" ++
  "BFOmBpadBoBTZpBpadBoBDYnBpadBoBXFeBpadBoBXFnBpbBAOcbBHMsbBMVibCDNcadEiEmDxacByBxacByByacByBz" ++
  "acByCaacByCbacByCcacByCdacByCeacByCfacBzBwacBzBxacBzByacBzBzacBzCaacBzCbbZHfcZHddZHbbZGzcZGx" ++
  "fZGvbDOCabDROkbDTHobDWTybDYNcbEAGgbEDSqbEHFabEIYebEMKobEODsbEPWwbERQabETJeacCZIuCNMeacCYCy" ++
  "CXMubEIGibUVobVGgbUWcbBBNsbVGqbXKqbUVibXKibVCcbYUibBNTsbBUWmbBRRkbBNVybCUDybBBSabBMWwbBOPmb" ++
  "BNTebCBNqbZJebBWKebCQFebCBPsbYIibCBZabBYLubBDKybCTBebXDqbYWibBSDubCYUsbVOabXLubBQZobUTobUWeb" ++
  "UTmbBGTqbZFqbYRkbBEZybBEWcbBZRibVLwbCQGgbYSwbBDCqacBzCcacBzCdacBzCeacBzCfacCaBwacCaBxacCaBya" ++
  "cCaBzacCaCaacCaCbacCaCcacCaCdacCaCeacCaCfacCbBwacBxBNAmacByBNAmacBzBNAmacCaBNAmacCbBNAmacCc" ++
  "BNAmacCdBNAmacCeBNAmacCfBNAmadBxBwBNAmadBxBxBNAmadBxByBNAmacEaDzadDxEkDzacDxEoadEeEmDwbBQxb" ++
  "BQvbBQtbBQrcBQpbBQnbBQlbBQjbBQhbBQfbBQdbBQbbBPzbBPxbBPvbBPtbBPpbBPnbBPlgBPjbBPfbBPbbBOxbBOtf" ++
  "BOpbBOnbBOlgBOjeBOhacBDWuBGAmaeSKwSMrSOiSMiaeSKwSNrSMvSKvaeSKwSNzSNaSKwadSKwSOiSNraeSKySMl" ++
  "SNzSLkadSKySNzSMbadSLaSLdSNzafSLcSLtSLjSOiSMjaeSLcSOiSLfSOiadSLeSNzSLtadSLeSOiSNgadSLfSKySNq" ++
  "aeSLfSNpSMdSMiaeSLfSNtSNqSOiadSLgSNtSNzadSLgSNzSNeacSLiSLgadSLiSMlSOiaeSLhSNlSNqSOiaeSLiSNr" ++
  "SMaSOiacSLhSNtafSLhSNtSLkSNpSNgagSLhSNtSNhSOiSMiSNrafSLhSNtSNvSMdSMiadSLkSNpSNgafSLkSNpSNg" ++
  "SMiSNzafSLjSNrSLwSKySNtaeSLjSNtSOiSMnadSLlSOiSLtadSLnSNrSMkadSLnSOiSNdaeSLpSKySLjSNrafSLpSNz" ++
  "SMbSOiSNgaeSLrSNqSNzSLkadSLvSNzSMbadSLvSNzSMiadSMaSOiSLtacSMhSLracSMjSNracSMiSNzacSMkSMoad" ++
  "SMoSMdSMiadSMpSKySMeafSMrSOiSLvSNzSMiadSMrSOiSMeaeSMqSOiSNsSNrafSMuSKwSLtSMiSNradSMuSLjSNrac" ++
  "SMuSLnacSMtSNrafSMvSKvSNpSMdSMjaeSMvSKxSOiSMiafSMwSMdSLrSLbSNradSMvSNpSNzafSMySLjSLzSOiSNrac" ++
  "SNaSLxadSNaSMlSMsadSMySNrSMeadSNaSNzSLtadSNaSOiSLsadSMzSOiSLzaeSNdSKySNzSMiadSNcSNrSMiacSNb" ++
  "SNzadSNdSNzSMjadSNbSOiSNradSNbSOiSNzaeSNeSKySLjSNtadSNeSKySNradSNeSMdSMpadSNeSNrSLjafSNeSNz" ++
  "SLrSNnSNzaeSNfSLjSNtSNzacSNfSNqafSNfSNqSMqSOiSNracSNhSLgaeSNhSLgSMiSNzaeSNhSOiSMiSNradSNkSOi" ++
  "SMjadSNkSOiSNradSNmSKwSNzaeSNqSMdSMiSNracSNqSNpadSNrSMuSOiaeSNrSOiSMwSNracSNsSNgafSNsSNzSMi" ++
  "SLmSNzadSNvSMdSMiacBwBQRxacBxBQRxacByBQRxacBzBQRxacCaBQRxacCbBQRxacCcBQRxacCdBQRxacCeBQRxac" ++
  "CfBQRxadBxBwBQRxadBxBxBQRxadBxByBQRxadBxBzBQRxadBxCaBQRxadBxCbBQRxadBxCcBQRxadBxCdBQRxadBxCe" ++
  "BQRxadBxCfBQRxadByBwBQRxadByBxBQRxadByByBQRxadByBzBQRxadByCaBQRxadEaEiDtacDwDtacDtEnadDuDtEk" ++
  "acEhEoacEiDvacDwEfadDwEfByadDwEfBzacEbEnacBJTzBLDoacBMSbBGAmacBHTvBORjacBMQwBPEpaeBNLqBJZz" ++
  "BDYwBTXuacEiDtacEgDtacBKuDtacEfDtacEdDtacEdDuacEfDuacDzDuadDvDtEeaeEdDvDtEeacEiDyacEgDyacBKu" ++
  "DyacBKuDzacEfDzacEdDzacEaEsadEdEaEsadEfEaEsadDzEaEsadEmEaEsacBKuEeacEfEeacDwEeacEdEeacDyEfac" ++
  "EgEfacBKuEfacEfEfacDvEfacEdEfadEfEfByadDvEfByacEfByadEdEfByadEfEfBzadDvEfBzacEfBzadEdEfBzad" ++
  "EfMXpElaeEfMXpElByacEiDtadEdEiDtadEfEiDtadDzEiDtadEkDtDwafEkDtDwMXpElagEkDtDwMXpElByacEiElac" ++
  "EgElacBKuElacEfElacEiEoacEgEoacBKuEoacEfEoacEdEoacEfEoacEiEpacEgEpacBKuEpacEfEpacEdEpacEfEpa" ++
  "cEdBLhacEfBLhacDuEjacDvDvacDvDwaeDvMXpEdDzacDwDuacDzEracEaDtacEaEiacEbEgacEdEdacEdEfacEdEmac" ++
  "EeEfacEeEgadEeEhDzacEeEqacEfDuadEfEbEeadEfEhEeacEiEaadEiEiEfacEiEkacElEkacElEoacEpDuadEoMXp" ++
  "EfadDtMXpEfacBxBMPhacByBMPhacBzBMPhacCaBMPhacCbBMPhacCcBMPhacCdBMPhacCeBMPhacCfBMPhadBxBw" ++
  "BMPhadBxBxBMPhadBxByBMPhadBxBzBMPhadBxCaBMPhadBxCbBMPhadBxCcBMPhadBxCdBMPhadBxCeBMPhadBxCf" ++
  "BMPhadByBwBMPhadByBxBMPhadByByBMPhadByBzBMPhadByCaBMPhadByCbBMPhadByCcBMPhadByCdBMPhadByCe" ++
  "BMPhadByCfBMPhadBzBwBMPhadBzBxBMPhadDzDtEeBlcbESYlbESYjBmcbbccbEANvgcbEVChmcbEVElbEVFhbEVEzb" ++
  "EVEfbEVElbEVApbEVClbEVAvbCTkicbDrbEVEjbEARvccbEVHdfcbEVXxbEWXpbEWXlbEWWrbcbEWIzbEWFrbDEvbCxb" ++
  "EXYzbzbEXXfDcEKZnbDEIxbEGQbbDCLrbDDZhbEARlbEZJxbEVBtbCPSvbCPSxbEQZfbDAErbETVzbERAdbEKLhbDUYr" ++
  "bDOBjbDIYzbDHVxbDGXnbDBEdbEEJjbECAlbDZEvbDWXlbDKNdbDANtbCUBxbEZFlbEVMbbEDQfbDYGrbDJBnbCQYdb" ++
  "EOAjbDZYbbDJJfbDGQpbEJWxbDMJjbDHPvbEMXvbEGQlbEBVzbDXQjbDBBfbEYMvbEWVtbEVZdbEIKtbEDVnbDYJbb" ++
  "DURvbDNUrbDJGfbDIZrbDDGpbCWGhbCTAxbCRCxbDTMbbDSTlbDPQfbDKYzbCZLdbCQTdbDFQjbERMjbEMVlbDQPjb" ++
  "DNMjbDYEhbDTIfbDEFbbCWMdbERNnbEOVxbEEMjbEBQbbEASjbDQAhbDPGbbCWZzbEWCtbDNMlbEWVvbEWXdbDSJjb" ++
  "DPPxbDKXxbCWXjbDFFfbEKApbEEOxbDFPlbEZQfbEPGxbEMCxbDXJvbDVYhbEVYtbDTGrbEYMtbEMLlbEZUhbECMxb" ++
  "EIBhbDQDjbEVMdbERZnbDUUhbDKSvbDFXhbEDIpbDCCnbECSxbEJYvbDLUrbEJMnbDWArbEZJdbEXHlbEXAdbEFUvb" ++
  "DQJfbDMEjbDFVhbDANtbEWDnbEVDzbERFvbENCdbEHXjbEAEdbDTFpbCXQfbCUAzbCQWvbCQSrbEWLhbEHEfbEDPxb" ++
  "DCKrbENMhbELDdbEKUpbEIVlbEAWbbDZFvbDWTxbDSUnbDPQpbDNTvbDCQdbDKJlbDBWvbCZMvbEWWvbEWMdbEUWvb" ++
  "DZQrbDHMpbDGBdbENHhbEMKhbEJSzbEDNpbDQZnbDXQpbEZItbETFrbEPMrbEOCvbEMHzbDXMjbDWYjbDOMbbDNYxb" ++
  "DAJxbCWUhbCWObbCVYdbEYWxbDSZfbDAUfbCWZnbELTvbEZRjbEXXpbEPNnbEPHjbEIFhbEEWnbDYZbbDVPlbDKLnb" ++
  "DBTdbCQInbEHNlbCXLfbEWRjbEGUzbEGLvbECLlbEBKvbDXIbbDWIhbDTZxbDQMnbCVUxbEXNzbEKWdbCXGnbEYMzb" ++
  "EOSlbEBZjbDCUrbEMWnbELOrbEGKjbDXTfbCXGdbEXAlbEVPdbEPHbbEHYnbEHAjbEFZvbECUlbDXKdbDVZpbDOSvb" ++
  "DHRbbDHPtbDAWfbCXAdbEWGdbEBLbbEVPfbDZClbDWZtbDJVnbCXFnbCSXhbCRElbEGWfbECEdbDMYdbDSIhbDSBvb" ++
  "DQZlbDYKxbEABjbDFUtbEZSbbDLZbbEXBtbEXFtbENRhbEKNdbDQUzbEQBdbECSrbEHPbbDCXbbDIDrbCXNzbDHFhb" ++
  "ENOpbEXVzbEULlbESMlbEHUxbEXKnbDYExbDVLpbDTPnbDTMzbDTMnbDTJjbCWVbbDQYvbDORxbDJXjbDGFbbDCFxb" ++
  "DBQvbCVQrbCVPtbCVMlbCSAzbDBTvbCXItbEZDrbEYFrbEXXxbEWUtbEWStbEWKlbEURhbEUJhbEUBvbESRpbESJrb" ++
  "EPOfbEPNnbEMJxbELTrbELQvbELJfbEIVbbEIJvbEHWlbEGKbbECQtbECEhbEBKbbDZQxbDZClbDXPvbDUGpbDTTjb" ++
  "DTSpbDTStbDTSfbDTRvbDTRjcDTNtbDTAdbDSVfbDRWtbDQFlbDQDxbDPZrbDPChbDORbbDNFpbDMUxbDMUzbDLKhb" ++
  "DHVjbDHLdbDGJhbDGFbbDEZpbDEVpbDCUxbDCKzbCXJtbCWNzbCWJlbEMPvbJOVcbDNDpbFAMtbEXUtbEYAtbEZMjb" ++
  "EYDpbEXZdbEXAbbEWWfbEUWjbEVBzbEUWvbEURhbESUtbESNzbESCxbESBtbERHbbEQRxbENXvbENXjbENMjbENHfb" ++
  "EMKhbEMBhbEMGtbELWnbEMAdbELOzbELJzbEKFhbEJYpbEJUnbEJApbEIErbEHSfbEHRzbEHNnbEEKdbEEFfbEDBfb" ++
  "EBVtbEBXbbEBQlbEAXdbDZXjbDVExbDZIfbDYYxbDYPnbDXQlbDXFbbDXBbbDWJtbDWJrbDVWpbDVVjbDVTnbDVMzb" ++
  "DVNvbDUJlbDSYfbDSDlbDRPdbDQXzbDQMhbDPMzbDOXtbDMKvbDLYvbDJHfbDHYfbDHSzbDHRvbDGVbbDGQtbDGUhb" ++
  "DGQfbDGQnbDGRxbDGMdbDGFzbDFCrbDDLrbDCNpbDBQzbDBAbbCXYxbCXRbbCXIhbCWYdbCWVlbCWUpbCWQzbCUNdb" ++
  "CRBvbIUIwbIUIibJDCabFOVhbFLLdbFLIrbKADkbKICqbLHWibCRJlbCRDtacDyDyacDyEbacDyEeadDyDyEbadDyDy" ++
  "EeacElEmacElEmacCBsCBuacCBsCBdacCBsCBjacCCcCBuacCBsCBlacCFpCEeacCGoCEhbHDTjbHDUvcHDUrdHDUfb" ++
  "HDTlbHDTjbHICpacCGfCEracCGfCEsadCGfCEmCEradCGfCEmCEsacCFgCEhacCFgCEiacCFgCEmacCFhCEmacCFiCEm" ++
  "acCFjCEmacCFkCEmacCFlCEmacCFmCEmacCFoCEmacCFpCEmacCFqCEmacCFrCEmacCFsCEmacCFuCEmacCFwCEmac" ++
  "CFxCEmacCFzCEmacCGaCEmacCGcCEmacCGdCEmacCGeCEmacCGfCEmacCGgCEmacCFlCEjacCFhCEpacCFrCEpacCGa" ++
  "CEpacCFgCFsbHDMbbHDMdbHDLlbHDLnbHDLpbHDLrbHDLnbHDLpbHDLrbHDLtbHDLrbHDLtbHDLvbHDLxbHDMlbHDMnb" ++
  "HDMpbHDMrbHDMjbHDMlbHDMnbHDMpbHDNdbHDNfbHDNhbHDNjbHDKdbHDKfbHDKhbHDKjbHDKhbHDKjbHDKlbHDKnb" ++
  "HDNfbHDNhbHDNjbHDNlbHDNpbHDNrbHDNtbHDNvbHDNrbHDNtbHDNvcHDNxbHDNzbHDObbHDOdbHDNtbHDNvbHDNzb" ++
  "HDObbHDNzbHDObbHDOpbHDOrbHDNnbHDNpbHDOfbHDOhbHDMnbHDMpbHDMrbHDMtbHDMjbHDMlbHDMnbHDMpbHDMjb" ++
  "HDMlbHDMnbHDMpbHDMvbHDMxbHDMzbHDNbbHDMlcHDMnbHDMpbHDMrbHDMtbHDMlcHDMnbHDMpbHDMrbHDMtbHDNbb" ++
  "HDNdbHDNfbHDNhbHDLvcHDLxbHDLzbHDRnbHDRpbHDRrbHDRtbHDPvbHDPxbHDQbbHDQdbHDQbbHDQdacCOtCLobHDQb" ++
  "bHDQdbHDQrbHDQtbHDQnbHDQpbHDQdbHDQfbHDQhbHDQjbHEAvbHEAxacCIoCIpacCIoCIpacCIoCPhacCIoCPhacCIo" ++
  "CJwacCIoCJwacCIoCOtacCIoCOtacCIoCOsacCIoCOsacCIoCOuacCIoCOuacCIoCPcacCIoCPcacCIoCPcacCIoCJxa" ++
  "cCIoCJxacCIoCJxbHDShbHDSjbHDSlbHDSnacCIoCIuacCIoCIvacCIoCJtacCIoCJxacCIoCJyacCIqCIuacCIqCIva" ++
  "cCIqCIwacCIqCJtacCIqCJxacCIqCJyacCIsCIuacCIsCIvacCIsCIwacCIsCJtacCIsCJxacCIsCJyacCItCIuacCIt" ++
  "CJtacCItCJxacCItCJyacCIuCIvacCIuCJtacCIvCIuacCIvCJtacCIwCIuacCIwCIvacCIwCJtacCJbCIuacCJbCIva" ++
  "cCJbCIwacCJbCJtacCJdCIvacCJdCJtacCJeCIuacCJeCIvacCJeCIwacCJeCJtacCJfCIvacCJfCJtacCJgCJtacCJh" ++
  "CIuacCJhCJtacCJiCIuacCJiCJtacCJpCIuacCJpCIvacCJpCIwacCJpCJtacCJpCJxacCJpCJyacCJqCIvacCJqCJta" ++
  "cCJqCJxacCJqCJyacCJrCIpacCJrCIuacCJrCIvacCJrCIwacCJrCJsacCJrCJtacCJrCJxacCJrCJyacCJsCIuacCJs" ++
  "CIvacCJsCIwacCJsCJtacCJsCJxacCJsCJyacCJtCIuacCJtCIvacCJtCIwacCJtCJtacCJtCJxacCJtCJyacCJuCIua" ++
  "cCJuCIvacCJuCIwacCJuCJtacCJuCJxacCJuCJyacCJvCIuacCJvCJtacCJvCJxacCJvCJyacCJyCIuacCJyCIvacCJy" ++
  "CIwacCJyCJtacCJyCJxacCJyCJyacCIyCLkacCIzCLkacCJxCLkadBgCKaCKfadBgCKbCKfadBgCKcCKfadBgCKdCKfa" ++
  "dBgCKeCKfadBgCKfCLkacCIoCIzacCIoCJaacCIoCJtacCIoCJuacCIoCJxacCIoCJyacCIqCIzacCIqCJaacCIqCJta" ++
  "cCIqCJuacCIqCJxacCIqCJyacCIsCIzacCIsCJaacCIsCJtacCIsCJuacCIsCJxacCIsCJyacCItCIzacCItCJaacCIt" ++
  "CJtacCItCJuacCItCJxacCItCJyacCJpCJxacCJpCJyacCJqCJxacCJqCJyacCJrCIpacCJrCJsacCJrCJtacCJrCJxa" ++
  "cCJrCJyacCJsCJtacCJsCJxacCJsCJyacCJtCIpacCJtCJtacCJuCIzacCJuCJaacCJuCJtacCJuCJuacCJuCJxacCJu" ++
  "CJyacCJxCLkacCJyCIzacCJyCJaacCJyCJtacCJyCJuacCJyCJxacCJyCJyacCIoCIuacCIoCIvacCIoCIwacCIoCJta" ++
  "cCIoCJvacCIqCIuacCIqCIvacCIqCIwacCIqCJtacCIqCJvacCIsCIuacCIsCIvacCIsCIwacCIsCJtacCIsCJvacCIt" ++
  "CJtacCIuCIvacCIuCJtacCIvCIuacCIvCJtacCIwCIuacCIwCJtacCJbCIuacCJbCIvacCJbCIwacCJbCJtacCJdCIva" ++
  "cCJdCIwacCJdCJtacCJeCIuacCJeCIvacCJeCIwacCJeCJtacCJfCIvacCJgCJtacCJhCIuacCJhCJtacCJiCIuacCJi" ++
  "CJtacCJpCIuacCJpCIvacCJpCIwacCJpCJtacCJqCIvacCJqCJtacCJrCIuacCJrCIvacCJrCIwacCJrCJsacCJrCJta" ++
  "cCJsCIuacCJsCIvacCJsCIwacCJsCJtacCJsCJvacCJtCIuacCJtCIvacCJtCIwacCJtCJtacCJuCIuacCJuCIvacCJu" ++
  "CIwacCJuCJtacCJuCJvacCJvCIuacCJvCJtacCJvCLkacCJyCIuacCJyCIvacCJyCIwacCJyCJtacCJyCJvacCIoCJta" ++
  "cCIoCJvacCIqCJtacCIqCJvacCIsCJtacCIsCJvacCItCJtacCItCJvacCJbCJtacCJbCJvacCJcCJtacCJcCJvacCJr" ++
  "CJsacCJrCJtacCJsCJtacCJuCJtacCJuCJvacCJyCJtacCJyCJvadCJoCKcCKfadCJoCKdCKfadCJoCKeCKfacCJfCJx" ++
  "acCJfCJyacCJhCJxacCJhCJyacCJiCJxacCJiCJyacCJbCJxacCJbCJyacCJcCJxacCJcCJyacCIvCJxacCIvCJyac" ++
  "CIuCJxacCIuCJyacCIwCJxacCIwCJyacCJdCJxacCJdCJyacCJeCJxacCJeCJyacCJcCIuacCJcCIvacCJcCIwacCJc" ++
  "CJtacCJcCIzacCJbCIzacCJdCIzacCJeCIzacCJfCJxacCJfCJyacCJhCJxacCJhCJyacCJiCJxacCJiCJyacCJbCJxa" ++
  "cCJbCJyacCJcCJxacCJcCJyacCIvCJxacCIvCJyacCIuCJxacCIuCJyacCIwCJxacCIwCJyacCJdCJxacCJdCJyacCJe" ++
  "CJxacCJeCJyacCJcCIuacCJcCIvacCJcCIwacCJcCJtacCJcCIzacCJbCIzacCJdCIzacCJeCIzacCJcCIuacCJcCIva" ++
  "cCJcCIwacCJcCJtacCJbCJvacCJcCJvacCJfCJtacCJbCIuacCJbCIvacCJbCIwacCJcCIuacCJcCIvacCJcCIwacCJf" ++
  "CJtacCJgCJtacCIpCJzacCIpCJzadCIsCIuCJtadCIsCIvCIuadCIsCIvCIuadCIsCIvCJtadCIsCIwCJtadCIsCJt" ++
  "CIuadCIsCJtCIvadCIsCJtCIwadCIuCJtCIvadCIuCJtCIvadCIvCJtCJyadCIvCJtCJxadCJbCIvCIuadCJbCIuCIva" ++
  "dCJbCIuCJxadCJbCJtCIvadCJbCJtCIvadCJbCJtCIuadCJbCJtCJtadCJbCJtCJtadCJdCIvCIvadCJdCIvCIvadCJd" ++
  "CJtCJtadCJcCIvCJtadCJcCIvCJtadCJcCIuCJyadCJcCJtCIwadCJcCJtCIwadCJcCJtCJtadCJcCJtCJtadCJeCIv" ++
  "CJxadCJeCIwCJtadCJeCIwCJtadCJfCJtCIvadCJfCJtCIvadCJfCJtCJtadCJfCJtCJyadCJhCIuCJtadCJhCJtCJta" ++
  "dCJhCJtCJtadCJhCJtCJxadCJiCJtCJtadCJiCJtCJyadCJiCJtCJxadCJpCIwCJtadCJpCIwCJtadCJqCJtCIvadCJq" ++
  "CJtCJtadCJsCIvCJtadCJsCIvCJyadCJsCIvCJxadCJsCIuCIuadCJsCIuCIuadCJsCIwCJtadCJsCIwCJtadCJsCJt" ++
  "CIvadCJsCJtCIvadCJtCIvCIuadCJtCIvCJtadCJtCIvCJyadCJtCIuCIvadCJtCIuCJtadCJtCIwCIuadCJtCIwCJta" ++
  "dCJtCIuCIwadCJvCJtCIuadCJvCJtCJtadCJuCIvCJtadCJuCIvCJxadCJuCIuCJtadCJuCIuCJtadCJuCIuCJxadCJu" ++
  "CJtCJyadCJuCJtCJxadCJyCJtCJtadCJyCJtCJtadCIqCIwCJyadCIsCIuCJyadCIsCIuCJxadCIsCIwCJyadCIsCIw" ++
  "CJxadCIsCJtCJyadCIsCJtCJxadCIuCJtCJyadCIuCIvCJxadCIuCJtCJxadCJbCIwCJxadCJdCIvCJyadCJcCIvCJya" ++
  "dCJeCIvCJyadCJsCIuCJyadCJsCJtCJyadCJyCIvCJyadCJyCIuCJyadCJyCJtCJyadCJtCJtCJyadCJqCJtCJyadCJu" ++
  "CIvCJyadCJqCJtCIvadCJsCIvCJtadCJhCJtCJyadCJrCJtCJyadCJuCIuCIvadCJtCIwCJyadCJsCIuCJtadCJrCJt" ++
  "CJtadCJsCIuCJtadCJuCIuCIvadCIuCIvCJyadCIvCIuCJyadCJtCIuCJyadCJpCJtCJyadCIqCIvCJyadCJrCJtCJta" ++
  "dCJhCIuCJtadCJdCJtCJtadCJbCIwCJyadCJuCIuCJyadCJdCJsCPeadCJqCJsCPeaeCIpCJsCJsCJvaeCIpCJrCIq" ++
  "CIzaeCJtCIvCJtCIxaeCJdCJsCJhCJtaeCIzCJbCJwCJsaeCJhCJsCJyCJvaeCJwCJbCJsCJtadCJdCJsCJxasCJdCJs" ++
  "CJxBgCIpCJsCJsCJvBgCJhCJsCJyCJvBgCJwCJbCJsCJtaiCIuCJsBgCIuCJsCIpCJsCJvaeCIzCOyCIpCJsbHKHrb" ++
  "GABvcHKGvbHKIxbHKGrcGAArbGMFxbGMGbbHKGlbHKGncHKKvbHKEpbHKEncGADlcGADxcGAEncGAEveGAErbHKIhb" ++
  "HKIfacBgBDtacBgBDtacBgBDtacBgBDtbHKIlbHKInbHKIpbHKMpbGAGtbHKLtbHKLxbHKLpbHKNzbGMIxcHKNpbHKHj" ++
  "bHKHhcGAGfbHKOlbHKOhcHKObbHKNzbHKMxbHKMvbHKMzbHKKtcHKPdbHKNdacBgCJzacCJoCJzacBgCKaacBgCKbac" ++
  "BgCKcacCJoCKcacBgCKdacCJoCKdacBgCKeacCJoCKeacBgCKfacCJoCKfacBgCKgacCJoCKgcHGCzcHGDbcHGDdc" ++
  "HGDfcHGDhbHGDjbHGDlcHGDncHGDpbHGDrbHGDtcHGDvcHGDxbHGDzbHGEbcHGEdbHGEfbHGEhcHGEjbHGElbHGEnc" ++
  "HGEpbHGErbHGEtcHGEvbHGExbHGEzcHGFbcHGFdcHGFfcHGFhcHGFjbHGFlbHGFncHGFpbHGFrbHGFtcHGFvbHGFxb" ++
  "HGFzcHGGbbHGGdbHGGfcHGGhbHGGjbHGGlcHGGnbHGGpbHGGrcHGGtbHGGvbHGGxcHGGzbHGHbbHGHdbHGHfbHGGtb" ++
  "HGGvbHGGxcHGGzbHGHbbHGHdcHGHfbHGHhbHGHjcHGHlbHGHnbHGHpcHGHrbHGHtbHGHvcHGHxbHGHzbHGIbcHGIdb" ++
  "HGIfbHGIhcHGIjcHGIlcHGInbHGIpbHGIrbHGItacCJsCIkacCJsCIkacCJsCIlacCJsCIlacCJsCInacCJsCInacCJs" ++
  "CIpacCJsCIpBgHLBbBaHKYpBkHLBbcGFZfbHLHlcGBAxbGBBxbGAItbGAJnbGAPvbGAPtbGAPrbGAPpbGAPnbGALdb" ++
  "GALbbGAKzbGANvbGAJnbGAQnbGAQlbGAQjbGAQhcGAQfbGAQdbGAQbbGAPzbGAPxbGAPvbGAPtbGAPrbGAPpbGAPnb" ++
  "GAPlbGAPjbGAPfbGAPdbGAPbgGAOzbGAOvbGAOrbGAOnbGAOjfGAOfbGAOdbGAObgGANzbGANxbGANrcGAUrcGYTdb" ++
  "GYGfbGYTfcGYGfdGYTjgGYGhbGYShdGYTxbGYSbkGYTzgGYOfgGYOjgGYOndGYOrcHLIhbHLHracBgBDsbHLIhbHLIlb" ++
  "GNCbbGJUpeGMKnbGJIvbGJFpCyDcBjDacHPLpbHQXlbHPQbbHPVnbHPPnbCRUhbHPPnbHPPrcHPVtbGVFrbHPVvbHPVl" ++
  "bHPPtbHPVdbHPVjbHPVpbHPRdbHQTvbHPRfbHPVjbHPTfcHPQjbHPVhbGHDwbCUTpbHPVjbGHDsbHPTbbGHDqbHQYlc" ++
  "HPVdbHRJbbHPVbbGHDicHPUzbHPUxbHPRxbHPSdbCRXbbHPSfbHPUrbGKBlbHPUjcHPTbbHPTxdHQKpbGHCcbGHDoBz" ++
  "EyDiCmBaNKTlkNKZfacGUFvGUGjacGUFwGUGjadGUFwGUGjGUGsadGUFwGUGjGUGtadGUFwGUGjGUGuadGUFwGUGj" ++
  "GUGvadGUFwGUGjGUGwacGUJpGUGjacGUJqGUGjadGUJpGUGjGUGsadGUJqGUGjGUGsadGUJpGUGjGUGtadGUJqGUGj" ++
  "GUGtBaNQEnBaNQGnBaNQInzNQKnBaNQMnBaNQOnsNQQnxNQSnBaNQUnBaNQWnvNQYnBaNRAntNRCnBaNREnBaNRGnBa" ++
  "NRInBaNRKnBaNRMnBaNROnBaNRQnBaNRSnBaNRUnBaNRWnBaNRYnBaNSAnBaNSCnbNROnbNQUlrNPRpbNPSjhNPRpb" ++
  "MSUdrNPTpbNPTnhNPTpbMSWnbNPVhbNPVdbNPVbbNPUfbNPUrbNPUvrNPWbbNPWvhNPWbbMSYprNPYbbNPXzhNPYbb" ++
  "MTAzbNPZtbNPZpbNPZnbNPYrbNPZdbNPZhrNQAnbNQBhhNQAnbMTDbrNQCnbNQClhNQCnbMTFlbNQEfbNQEbbNQDzb" ++
  "NQDdbNQDpbNQDtrNQEzbNQFthNQEzbMTHnrNQGzbNQGxhNQGzbMTJxbNQIrbNQInbNQIlbNQHpbNQIbbNQIfrNQJlb" ++
  "NQKfhNQJlbMTLzrNQLlbNQLjhNQLlbMTOjbNQNdbNQMzbNQMxbNQMbbNQMnbNQMrbNQKnbNQKpkNTFfkNTFzkNTGtk" ++
  "NTHnkNTIhjNWNndNWNllNWNjbNWNfcNWNdbJDQnbNWCpbNWMtbNWMrbNWBpbNWGdbNWDtjNWQbcNWPzcNWPvbNWPtg" ++
  "NWPrcNWPpbNWKhbNWOxbNWPbbNWOjbNWIpbJDXlbNWIhBiCqcOFMvbOFMpbOFMlbOFKrbOFMlbOFMxbOFMfbOFKve" ++
  "OFLlbOFMzbOFMpbOFMbbOFNbbOFMdbOFNnbOFNjcOFOfbOFObbOFNzbOFNpbOFNnbOFNlbOFJnbOFDtbOFFtbOFJrb" ++
  "OFPhbOFPbbOFNdbOFPjbOFNheOFNxbOFPlbOFPbbOFOnbOFPnbOFOpbOFPvcOFQrbOFQnbOFQbbOFPxbOFRnbOFRvb" ++
  "OFPtcOFQjbOFRxbOFRnbOFRzbOFRbbOFShbOFSzbOFSnbOFSjbOFIrbOFOpbOFUfbOFTzbOFSbbOFUhbOFTpbOFSfd" ++
  "OFSvbOFUjbOFTzbOFTlbOFUlbOFTnbOFUtcOFVpbOFVlbOFUzbOFUxbOFUvbOFQxbOFNdcOFWrbOFWlbOFWhcOFUnb" ++
  "OFWhbOFWtbOFWbbOFUrdOFVhbOFWvbOFWlbOFVxbOFWxbOFVzbOFXjbOFXfcOFYbbOFXxbOFXvbOFXlbOFXjbOFXhb" ++
  "OFZdbOFYxbOFYtbOFWzbOFYtbOFZfbOFYnbOFXddOFXtbOFZhbOFYxbOFYjbOFZjbOFYlbOFZvbOFZrcOGAnbOGAjb" ++
  "OGAhbOFZxbOFZvbOFZtacBwBsacBxBsacByBsacBzBsacCaBsacCbBsacCcBsacCdBsacCeBsacCfBsadBoDtBpadBo" ++
  "DuBpadBoDvBpadBoDwBpadBoDxBpadBoDyBpadBoDzBpadBoEaBpadBoEbBpadBoEcBpadBoEdBpadBoEeBpadBoEfBp" ++
  "adBoEgBpadBoEhBpadBoEiBpadBoEjBpadBoEkBpadBoElBpadBoEmBpadBoEnBpadBoEoBpadBoEpBpadBoEqBpadBo" ++
  "ErBpadBoEsBpadSFkElSFlbOMGtbOMFracDvDwacEpEsBaOMHhacEaEoacEfEoacElDwacElEladEiEiEoacEpDvacEf" ++
  "DvacEfDwacEfEkacDwEcacSJjSHnacSLnSLnbNCHtbLQUjbLWBjbMBTzbNCHrbMFTnbLXTtbKMVdbLXStbMFRzbLNXpb" ++
  "LFOzbLOIdbMCYfbLSXlbMDNdbLOGrbMDCfbKWKrbLCOzbKKTnbLXYdbMBNbbLHEhbLQQlbLQBtbMGFxbMGFhbKIArb" ++
  "LUFbbMGCtbMBTdbLQIhbKKFfbLQWhbKZHxbKYOvbMBRzbLHQvbLNHxbLNIbbLCPdbMCXpbMALjbKHHzadSFkBNBwSFla" ++
  "dSFkBDOjSFladSFkBDTkSFladSFkBIRhSFladSFkBQRxSFladSFkBLGdSFladSFkBTAdSFladSFkBFJxSFladSFkBMJv" ++
  "SFlbLTAnbMBWdkOUOtbTWJlbTWJxbTWJhbHEZpbTVNjbTVHlbTVGnbTVBdbTURzbTUPrbTUJtbTULrbUPUxbHBEbb" ++
  "TUCfbTUBtbTUApbTTZfbHCAlbUPTjbTUArbTTXvbHBXdbTTXfbTTWhbTWAjbTTVvbTTVfbCZLhbTTQlbTTPlbUPRjb" ++
  "TTLhbTTKnbTTHfbTTGxbUPNpbTTAxbTTAvbTSYvbTSXfcTSWlbTSVfbTSRlbTSQxbTSQhbTSOlbTSNtbTSNrbTSNtb" ++
  "TSNvbGYHjbSWQbbTSIhbTSGtbGXJtbTSFzbTSFpbTSEbbTRSlbTSAjbTRZfbTRWvbTRSlbTRMbbTRKdbTRFbbTRDxb" ++
  "TRBlbTRBnbTQZzbTQYrbTQYdbTQXbbTPWzbTQRzbTPXbbTQMjbTQJtbTTSzbTONdbTPJjbTPGnbTPErbTPOtbTPBzb" ++
  "TPCdbTOStbGQHdbTONnbTONfbTOMdbTOKrbTOKdbTOFhbGOYxbGOTxbTNUxbTNRjbTNQnbTNWrbTNLvbUOIjbUOHjb" ++
  "TMZpbTMVnbTMVpbGMQhbTMLnbTMJzbTMIxbTMIbbGLQvbTMHhbTMGvbTJTxbTMEvbUNYfbTMAfbTLZfbTLSzbTLWzb" ++
  "GJOnbTLJdbGJOnbTLFzbTLGhbTLFbcTKXjbUNLvbTKVlbTKSfbTKQrbTKNjbUNIhbGGWhbUNGlbTKIfbTKIbbTKHxb" ++
  "TKGlbCMJpbTKCpbGFPvbGFPxbSJPjbTKAdbTKAfbUNBpbFTWnbEKElbTJVpbTJUzbUMZvbTJRnbTJNrbTJMzbTJKlb" ++
  "TJAbbUMTpbUMVzbTIYvbGCXrbTIVbbTILfbTIKzbTIKxbTILdbTIHrbTIGfbTIDnbTIErbTIDxbTIAjbTHYxbTHYrb" ++
  "THWtbTHVzbTHQzbTHKpbTHHzbTGYnbFZUdbTHAdbTHFfbTGWzbTGUzbTGNpbFZCzbTGIzbTGQfbTGSlbUMDjbTGDvb" ++
  "TGChbTFZzbTGCzbULYzbTFMnbTFKjbFWBfbTFBjbTEGdbTETrbULMfbTEOhbULNrbULQnbTULzbTULvbTEGdbTENxb" ++
  "SKUrbUEWpbTEErbTEElbTEEbbTDZlbTEAjbFTHjbULJtbTDNtbTDWvbTDHdbTDDhbFSUtbTDCtbTDLjbTCSpbULDzb" ++
  "TCPfbTCHvbTCClbTBNxbFRDxbTBKdbUKVbbTBExbFPQnbTBBdbUKRfbTAYzbTAVpcTATpbFOFrbGKOvbFNXlbTAIpb" ++
  "FMOzbTAAbbSZZbbTAGzbSZTpbSZQpbSZMhbSZQnbSZNnbSZMlbSZLnbFMIhbSZRxbSYYrbSYTxbUKBlbSYMxbSYNhb" ++
  "FLBjbSZDhbSYArbFKQtbFKNdbSXUdbSXLjbSXNnbSXNvbUJUtbSXKjbSXGnbSXHbbSXCzbHCUdbSWRlbFIKhbSWKxb" ++
  "FHLfbSWAhbSVZjbSVXjbFFQzbSVTvbSVShbFEUbbFECzbSVAxbSUZrbUJAxbSUXvbUJAdbUJAfbSULpbSUKbbSUInb" ++
  "SUHbbSUBvbUITbbSTVbbFBArbSTTfbFATtbSTPnbGHHrbSTDjbEYLvbEYKdbEXZlbUICpbUIBtbSSMhbEXMhbEXMlb" ++
  "EXJnbEXHpcSSJlbSSJnbSSGhbUHYtbSSBlbUHXxbUHRvbEVCxbSRMtbSRIbbSRDfbUHMhbETPfbSQSvbETGlbETDfb" ++
  "SQOrbSQHrbUHGzbSQBhbSQApbSQAhbERChbEQFjbEQFlbSPOjbUGRjbEPLrbSOXzbSOXvbUGOvbEOVpbSODrbUGFtb" ++
  "SOCdbSOCpbSOAlbEMOnbSNSzbUFYtbSNLlbSNGzbSNBxbUFVdbEKPfbEKMxbUFSnbEKBvbSMEpbEJUfbSMCrbSLUzb" ++
  "SLUfbEIOvbEIJhbSLNlbEHZfbSLMjbFUBpbUFJzbSLHnbSLBjbUFGbbSKWzbTOBxbEGMpbEGLpbFTYhbFTXrbSKIlb" ++
  "SKIhbSAAnbUEZlbSJXrbSJYfbSJWxbTUEnbSJVnbSJVlbSJUtbSJRrbEDVhbSJRxbSJNrbSJIjbSJCtbSJNlbSJBrb" ++
  "SIYnbSIPzbSJKbbSJAzbSJAxbSIZtbEDDbbECFjbECQzbUEMpbSIEvbSIEtbSICdbDXKjbSHWhbEAXlbUEJhbUEJbb" ++
  "EANlbDZRhbUEInbSHErbSHDvbSHDbbSHCzbSGYdbSHAtbSGQnbSGTzbSGIlbSGOtbSGJrbSGHrbUEBfbSGAvbSFYlb" ++
  "UDYvbSFRhbSFRdbDVMxbSFIjbSFHxbUDUrbSFFxbURAzbDTUnbDTGlbUDKnbUDJxbSDZxbSDUbbSDIbbSCSnbDQUvb" ++
  "SCMbbSCKlbSCDpbSBWpbDOXlbHBEfbSBQjbSBRpbSBNrbHANtbSAWhbSAOrbDJXjbDJVjbRZOdbRZHbbRZErbDIWzb" ++
  "RZEbbRYIfcRXWbbRYDfbRWZzbRWXxbDFHdbRVVhbUBJfbRVSbbDEEdbUBDfbRUXrbTMDnbRUQlbDBHpbDARhbUATfb" ++
  "UASrbRUChbCZFlbUAOhbCYUvbRTZhbRTZjbRTXdbCXYzbRTJbbUAExbRTDtbRSUdbRSSdbRSNpbTZTjbCTVtbRRSpb" ++
  "RQVlbRQGzbTZAbbTYXtbRPZbbCPPrbTYXdbCPLpbCORhbCOHhbROZjbTYQhbROUtbROUlbROTzbROThbROSvbROQbb" ++
  "CLSj"

/-- The classes of direction: left to right (0), right to left (1), Arabic letters (2) and numbers
(3), European numbers (4), their separators (5), common separators (6) and terminators (7), other
neutral characters (8), boundaries (9), marks (10), and all others (11). -/
def directions : Text.Runs := .read <|
  "jjlfjolfichdiffbgbfbgcekgbiBmaBaiejBiibheikhgiBpayibaRhicahioaciBcabirkEjaeicaExicaFjkiaJvif" ++
  "hckBtbbkbbbkcbbkcbbkjbCciccbhccbgbcbicklcBwkvdkhbdccdkbcDxkiibkgcckcibkeccekcxkbcBekBdcDlklc" ++
  "pbBrkjbciebdkbbykebbkjbbkdbbkhbBpkfbccCdkjcBqkCfaCdkbabkbaekiaekbadkpackcaBdkbaCgkbaekgagkba" ++
  "ukeamhcahhbackfaCfkcadkBbaukcadkbalkcaCfkbaekiaekdaskealhiabkiaCgkbackbabkgagkkalkeaBckbaCjk" ++
  "bamkdaBjighbigkbadkbaCdkbabkdafksakkeasihackbaCgkbapkjankeaBakcaCfkcaekfahkbaukeaBbkbaCukfad" ++
  "kgaDlkbacklhbahkiaDukbackjalkiaCukcaBbkbabkbabkbieaBzkoabkfabkcafkBxaikbaDykeabkgabkcackcazk" ++
  "caekdaqkeankbackcagkbapkbaBBbkdaBwiqaDsibaZqifaEkkdaBdkcaBekoaskoaCdkhaikbacklahhbabkdaqiBga" ++
  "EnkcaBikbaEokdaekcajkbagkhigaFwiBiaxkcackdaCekbabkjabkbackiagknaBwkDgaBwkbabkfabkbafkbaBokja" ++
  "mkcaBgkeackcabkdaCekbabkcadkbabkdaCgkiackfaFtkdabknabkhaekbagkbadkcaHqkCnaUdjeiBghfipgbiDnh" ++
  "BwkCaiBqhmiuaCiiFgfbhbiLeaCriBaabiBEkabiNbaJwiBFkaGzihadkeagihaExkbaDskBgiTxadizajkeacibagie" ++
  "acieaDkkeadibaDmibaHoiBwaKNwiCmaBGUiiCmaMfidaDrkeibkkidaBdkcaDckcaoiBjaDxibaErkbadkbaekbazkc" ++
  "abiekeaihiaCaimaCqkkasksankbaBmkiazklaBukdaBwkbackeackcaBnkbaCpkgackcackladkbaikbaBvkbaBzkba" ++
  "bkdackcafkcabkbaBqkcaiklaEbiDiaBlkbackbaekdaBDZqkFscPgiIskBliBucPhaJxibaCkiCzadiCmaBtkFbaDsk" ++
  "beBfaEokkaBSibLbibbIrkpbBokibGjkgbDaihbRgcBkkmdBabBfkfibbJhdBgbBrkcbvcCgkebBwcwklcBfbskebEsa" ++
  "bkbaCckpaliuakkbackcakkdaBxkeackcahkoaBwkdaBkkfabkjaCjkbamkcaCakjakkeackbaDrkdackbabkcagkbac" ++
  "kClaDrkbadknaqkcaCfkcadkbaBlkBaaChkhamkbabkbabkbaokBfaCekiackdabkbaxkbaDgkgabkbaekcabkcaJekg" ++
  "aekcabkcaBbkBkaBzkiackbabkcaBfiBgaBrkbabkbackgabkbaDxkdackeabkjaJvkjabkcaJwkcabkbaekbaFokiae" ++
  "kbaBgkgackcaBokgackeaikjabkgackdaBuknabkcaPqkoaDgkxabkhabkcabkCxaBxkvabkjaCmkdackbabkbaNjkca" ++
  "lkcaCakiackbabkbaxkDiaBliiheiBeaHRlkbagkzaQYokmadkdaDSakfaChkhaBOikbaClkeaDbibabkmaBDAzkca" ++
  "FVliBDokDcaUpkdarkiackhaBekeaChiDlkdiEtaCmiDsaCNgkCdaekByaikbaokbawkBRhaJwkJwaBwkhaOlksaBske" ++
  "aphRxaBckeaJukcaUibIakDebBikhbBFacYpiXkaBdidaCjiCfaEsiFEe"

/-- How characters join: not at all (0), through (1), to both sides (2), to the left (3), or to the
right (4). -/
def joinings : Text.Runs := .read <|
  "aBDobEjaKobiaKcbBtabbbabbcabbcabbjaCmblafcbabeecbebcbebcfeecnabchebccbvaoccbbedafcpescBmebcc" ++
  "ejcbebcbebccecabebbiabbgacbcabbeecakcdaccbaqebbbcdefceebcjebcbebcbebccebbBdebcledcpecceebcbe" ++
  "ccdeccgaBmblazcBhbjajbbaybeabbjabbdabbhaqebcfeccbebckebcbedbfaccbabceabebcbeBaadcbaccfejbjck" ++
  "edabebcceccgebcpabbCfaCdbbabbbaebiaebbadbpacbcaBdbbaCgbbaebgagbbaubeaybfaCfbcadbBbaubcadbbal" ++
  "bcaCfbbaebiaebdasbeaubiaCgbbacbbabbgagbkalbeaBcbbaCjbbambdaBwbbadbbaCdbbabbdafbsakbeaBbbbaCg" ++
  "bbacbbagbbafbjanbeaBabcaCfbcaebfahbbaubeaBbbbaCubfadbgaDlbbacblaibiaDubbacbjalbiaCubcaBbbbab" ++
  "bbabbbaCdboabbfabbcafbBxaibbaDybeabbgabbcacbcazbcaebdaqbeanbbacbcagbbapbbaBBbbdaBKkbdaBdbca" ++
  "BeboasboaCdbhaibbacblajbdaBncbaycDsafbccBibbcgaEibdaebcajbbagbhaIhbcacbdaCebbabbjabbbacbiagb" ++
  "naBwbDgaBwbbabbfabbbafbbaBobjambcaBgbeacbcabbdaCebbabbcadbbabbdaCgbiacbfaFtbdabbnabbhaebbagb" ++
  "badbcaHqbCnaUdbbaHnbCaaENjbeaFkbbaDsbBgaVibeaEdbeaBSQcbeabbkaBgbcaDcbcaKmbbadbbaebbazbcafbea" ++
  "qcBydbaDdbkasbsanbbaBmbiazblaBubdaBwbbacbeacbcaBnbbaCpbgacbcacbladbbaibbaBvbbaBzbbabbdacbcaf" ++
  "bcabbbaBqbcaiblaIubbacbbaebdaBDZqbFsaXybBlaBKqbFbaDsbbaFtbkaCMbbpaBobiaEycfebabebabecacdbefc" ++
  "edbcfebcdebacebbgceebaFocbebcbedcdebccebcbeccbeiaqeeccaMzdbcBhebcbbmaCfbfaMfbcavebcCfbeaBwcd" ++
  "ebcrabblcdebaBbceeccmbeaBqcbabccedabcbecccebccabcbeccbaeebcbdvaBhbbaCcbpaBpbbacbcakbdaBxbeac" ++
  "bcahboaBwbdaBkbfabbjaCjbbambcaCabjakbeacbbaDrbdacbbabbcagbbacbClaDrbbadbnaqbcaCfbcadbbaBlbBa" ++
  "aChbhambbabbbabbbaobBfaCebiacbdabbbaxbbaDgbgabbbaebcabbcaJebgaebcabbcaBbbBkaBzbiacbbabbcaEcb" ++
  "babbbacbgabbbaDxbbabbbacbeabbjaJvbjabbcaJwbcabbbaebbaFobiaebbaBgbkaBobgacbeaibjabbgacbdaBubn" ++
  "abbcaPqboabbbaDebxabbhabbcabbCxaBxbvabbjaCmbdacbbabbbaNjbcalbcaCabiacbbabbbaxbDiaHUmbbagbza" ++
  "QYobmadbdaDSabfaChbhaBOibbaClbeaDdbmaBDAzbcaGYzbDcaUpbdarbiacbhaBebeaFsbdaCYdbCdaebByaibbaob" ++
  "bawbBRhaJwbJwaBwbhaOlbsaBsbeaTobeaJubcaBCibDecBibm"

end ContextCompiler.LabelTable
