import ContextCompiler.Text.Runs

/-!
How characters are composed, as the character database gives it.
-/

namespace ContextCompiler.Text.CompositionTable

/-- The classes of marks that tell the order in which they follow a character. -/
def orders : Runs := .read <|
  "aBDoIwvIybImeIybIibImfHucImeHucImlbfImeIwdacIwbacJgbIwbImdIwdImcabIwdImeIwbIybImcIwbIzbJacIz" ++
  "bJacIzbIwnaKpIwfaKfImbIweImbIwdIobImbIwgImgIwcImbIwcIobIubIwbkblbmbnbobpbqbrbsbtcubvbwbabxba" ++
  "bybzbabIwbImbabsbaCuIwiBebBfbBgbaBwBbbBcbBdbBebBfbBgbBhbBibIwcImcIwfImbIwcImbaqBjbaDxIwhacIw" ++
  "eImbIwbacIwcabImbIwcImbaBjBkbaBeIwbImbIwcImbIwcImdIwbImcIwbImbIwdImbIwbImbIwbImbIwbImbIwcaGe" ++
  "IwhImbIwbajImbayIweabIwjabIwdabIwfaBrImdaChIwcImdIweaBqIwfImfIwoabImbIwcImbIwcImbIwdImdBbbBc" ++
  "bBdbIwdImbIwcImcIwfaCihbaqjbadIwbImbIwcaDzhbaqjbaBwIwbaCjhbaqjbaEghbaqjbaEghbaqjbaExjbaEghba" ++
  "qjbahDgbDnbaDxhbaqjbaEfjcaqjbaEujbaEfDzcjbanEdeaEeEocjbanEseaCyImcaBbImbabImbabIibaCdEzbFaba" ++
  "bFcbafFaeacFababIwcjbabIwcaCkImbaEihbabjcaDeImbaBBrIwdaBKmjcaBejbaGbjbakIwbaHvIubaFnIobIwbIm" ++
  "baIlIwbImbaCtjbauIwiacImbaBwIwfImgIwcImbabImcIwcImcIwfImbIweaDxhbapjbaBmIwbImbIwhaCcjcaCghba" ++
  "ljcaCphbaFwIwdabbbImfIwcImeIwbabbhaeImbagIwbadIwcaHqIwcImbIwhImbIwcJabIgbImbHubIwBlIybIucImb" ++
  "IkbIwbIzbImbIwbImbaBBsIwcbcIwebdIwcaeIwbadbcIwbImbIwbbcImeIwbaEOcIwdaFljbaDsIwBgaViIkbIubIyb" ++
  "IobIqcaEbicaBSQeIwbaeIwkaBgIwcaDcIwcaKqjbaBljbaFvjbaBbIwsaCfImdaBljbaDrhbamjbaJfIwbabIwcImba" ++
  "cIwcafIwcabIwbaCajbaJmjbaBDZsBabaBDpIwhImhIwcaBLlImbaIsImbaFtIwfaCMsImbabIwbaBoIwbbbImbaejba" ++
  "GjIwbImbaWbIweaCnIwfaMfIwcaDcImdaCsImcIwdImbIwbImeaBxIwbImbIwbImbaHkjbaBpjbaojbaCfjbhbaCrIwd" ++
  "aBwjcaCkhbaCyjbajhbaEcjbhbaGwhbjbaDchcaqjbayIwhadIwfaDljdaEjjbadhbaxIwbaDvjbhbaJrjbhbaEwjba" ++
  "EojbhbaEljbaKjjbhbaJyjcaehbaGajbaDfjbasjbaDdjbaQfjbaJyhbabjcaDdjbaQjjcaYZcjbaDSabfaChIwhaBUn" ++
  "gcaBDAybbaHWoIicbdadIsbIifaiImiacIwfImcaBeIweaFsIwdaFFfIwhabIwracIwhabIwcabIwfaDwIwbaGeIwha" ++
  "OlIwbaCjIweaToIycImbIwbaJuIwbImbaBCiImhaEfIwghb"

/-- The composed characters in order. For each stand its distance from the one before, its distance
from its first part, twice and one less where that part comes behind, and its second part. -/
def composed : String :=
  "HkJuBDobJwBDpbJyBDqbKaBDrbKcBDwbKeBDycKeBFbbKcBDobKeBDpbKgBDqbKiBDwbKcBDobKeBDpbKgBDqbKiBDwc" ++
  "KcBDrbKcBDobKeBDpbKgBDqbKiBDrbKkBDwdKeBDobKgBDpbKiBDqbKkBDwbKeBDpdJuBDobJwBDpbJyBDqbKaBDrbKc" ++
  "BDwbKeBDycKeBFbbKcBDobKeBDpbKgBDqbKiBDwbKcBDobKeBDpbKgBDqbKiBDwcKcBDrbKcBDobKeBDpbKgBDqbKi" ++
  "BDrbKkBDwdKeBDobKgBDpbKiBDqbKkBDwbKeBDpcKiBDwbOsBDsbMiBDsbOwBDubMmBDubPaBFcbMqBFcbPaBDpbMq" ++
  "BDpbPeBDqbMuBDqbPiBDvbMyBDvbPmBEabNcBEabPoBEabNeBEadPuBDsbNkBDsbPyBDubNoBDubQcBDvbNsBDvbQg" ++
  "BFcbNwBFcbQkBEabOaBEabQkBDqbOaBDqbQoBDubOeBDubQsBDvbOiBDvbQwBFbbOmBFbbQyBDqbOoBDqdReBDrbOu" ++
  "BDrbRiBDsbOyBDsbRmBDubPcBDubRqBFcbPgBFcbRuBDveSaBDqbPqBDqbScBFbbPsBFbcSgBDpbPwBDpbSkBFbbQa" ++
  "BFbbSoBEabQeBEafSwBDpbQmBDpbTaBFbbQqBFbbTeBEabQuBEaeTmBDsbRcBDsbTqBDubRgBDubTuBDzbRkBDzdTw" ++
  "BDpbRmBDpbUaBFbbRqBFbbUeBEabRuBEabUgBDpbRwBDpbUkBDqbSaBDqbUoBFbbSeBFbbUsBEabSiBEabUuBFbbSk" ++
  "BFbbUyBEabSoBEadVeBDrbSuBDrbViBDsbSyBDsbVmBDubTcBDubVqBDybTgBDybVuBDzbTkBDzbVyBFcbToBFcbVy" ++
  "BDqbToBDqbVyBDqbToBDqbWcBDwbWcBDpbTsBDpbWgBDvbTwBDvbWkBEabUaBEaBiZyBEpbXoBEpoBAqBEpbYgBEpBd" ++
  "BEmBEabBCcBEabBEaBEabBBqBEabBDsBEabBBiBEabBDkBEabBBaBEabTeBDsbQuBDsbTiBDpbQyBDpbTmBEabRcBEab" ++
  "TqBDobRgBDocVsBDsbTiBDsbFjBDsbFjBDsbVwBDsbTmBDsdBFyBEabBDoBEabBFuBEabBDkBEabBFqBFcbBDgBFcbe" ++
  "BDsbeBDsbEgBEabMnBEabBEaBEaeBHaBDpbBEqBDpdBGuBDobBEkBDobXuBDpbVkBDpbXwBDpbVmBDpbWqBDpbUgBDpb" ++
  "BIkBEdbBGaBEdbBIoBEfbBGeBEfbBIkBEdbBGaBEdbBIoBEfbBGeBEfbBIkBEdbBGaBEdbBIoBEfbBGeBEfbBIgBEdb" ++
  "BFwBEdbBIkBEfbBGaBEfbBIiBEdbBFyBEdbBImBEfbBGcBEfbBIkBEdbBGaBEdbBIoBEfbBGeBEfbBIwBFabBGmBFab" ++
  "BIyBFabBGoBFadBKeBEabBHuBEahBLiBDvbBIyBDvbBLeBFbbBIuBFbbBAeBDsbXuBDsbBAkBDsbYaBDsbBKwBDvbBIm" ++
  "BDvbeBDsbeBDsbBKkBDsbBIaBDsNaCEkBDpbvBDpczBDpbBbBDpbBdBDpcBlBDpcBtBDpbBzBDpbElBDpBaBiBDwbm" ++
  "BDwbjBDpbpBDpbrBDpbtBDpbCbBDpBaBiBDwbmBDwbBaBDpbqBDpbkBDpfcBDpbeBDwBsBpBDobBnBDwcBfBDpecBDwf" ++
  "BbBDpbvBDobBpBDulcBDuBgcBDuxCcBDobCeBDwcCmBDpecBDwfCqBDpbCwBDobCcBDuyeBEdbeBEdCwNeBDubKuBDuo" ++
  "OuBDubMkBDubOyBDwbMoBDwdOwBDubMmBDudeBDwbeBDwbPgBDwbMwBDwbPiBDwbMyBDwdPoBDsbNeBDsbPsBDwbNi" ++
  "BDwbPkBDwbNaBDwdeBDwbeBDwbOsBDwbMiBDwbPqBDsbNgBDsbPuBDwbNkBDwbPyBDzbNoBDzbPuBDwbNkBDwdPuBDwb" ++
  "NkBDwLljCKhbhCKibCtCKibdCKjbCtCKiFyBpCKiccCKircCKiXacDMyicDMydcDMyFviDRybkDSxOqcEHqdiEGsbk" ++
  "EHrCueEMpCciELqbiELqbmEMpEueERmEqcEWjhcEWjbeEWkciEVqbcEWjExiFAkbiFAkbmFBjFmcFFucgFFzbcFFubk" ++
  "FGpWmcGDiEDccKHxccKHxccKHxccKHxccKHxecKHxBpcKHxccKHxdeKHxbeKHxccKHxBAzWNuBEzbWLkBEzbWNwBDvb" ++
  "WLmBDvbWOaBExbWLqBExbWOeBFlbWLuBFlbWEcBDpbWBsBDpbWOiBDvbWLyBDvbWOmBExbWMcBExbWOqBFlbWMgBFlb" ++
  "WOuBFbbWMkBFbbWOyBFhbWMoBFhbVZgBDobVZgBDobVZkBDpbVZkBDpbWPiBFhbWMyBFhbWPmBFkbWNcBFkbVEmBDub" ++
  "VEmBDubWPsBDvbWNiBDvbWPuBDsbWNkBDsbWPwBDvbWNmBDvbWQaBExbWNqBExbWQeBDwbWNuBDwbWQiBFbbWNyBFbb" ++
  "WQmBFibWOcBFibWQoBFkbWOeBFkbWGkBDpbWEaBDpbWQsBDpbWOiBDpbWQwBExbWOmBExbWRaBFlbWOqBFlbWRcBExb" ++
  "WOsBExbeBDsbeBDsbWRkBFlbWPaBFlbWRoBFhbWPeBFhbWRqBDpbWPgBDpbWRuBDvbWPkBDvbWRyBExbWPoBExbWSa" ++
  "BDvbWPqBDvbWSeBExbWPuBExbWSiBFlbWPyBFlbWSmBFhbWQcBFhbWIgBDpbWFwBDpbWIkBDwbWGaBDwbVZkBDobVZk" ++
  "BDobVZoBDpbVZoBDpbWTcBDpbWQsBDpbWTgBDvbWQwBDvbWTgBDvbWQwBDvbWTkBExbWRaBExbeBDsbeBDsbWTsBFlb" ++
  "WRiBFlbWTuBDvbWRkBDvbWTyBExbWRoBExbVZwBDvbVZwBDvbVZoBDvbVZoBDvbmBDvbmBDvbWUmBDvbWScBDvbWUq" ++
  "BExbWSgBExbWUuBFlbWSkBFlbWUyBFhbWSoBFhbWVaBEybWSqBEybWVeBFkbWSuBFkbWViBFhbWSyBFhbWAiBDpbWAi" ++
  "BDpbWAiBDwbWAiBDwbWVsBDrbWTiBDrbWVwBExbWTmBExbWVyBDobWToBDobWWcBDpbWTsBDpbWWgBDwbWTwBDwbWWk" ++
  "BDvbWUaBDvbWWoBExbWUeBExbWWqBDvbWUgBDvbWWuBDwbWUkBDwbWWwBDvbWUmBDvbWWyBDqbWUoBDqbWXcBExbWUs" ++
  "BExbWXgBFlbWUwBFlbWWiBFlbWVmBDwbWViBDybWVgBDycWBgBDvfXAcBExbWXsBExbXAgBDxbWXwBDxbWQmBDpbWOc" ++
  "BDpbWQqBDobWOgBDobWQuBDxbWOkBDxbWQyBDrbWOoBDrbyBDqbyBDqbWMiBDpbWMiBDpbWMmBDobWMmBDobWMqBDxb" ++
  "WMqBDxbWMuBDrbWMuBDrbBsBDubBsBDubXBqBExbWZgBExbXBuBDxbWZkBDxbXByBDrbWZoBDrbWRwBDpbWPmBDpbWSa" ++
  "BDobWPqBDobWSeBDxbWPuBDxbWSiBDrbWPyBDrbBcBDqbBcBDqbXCoBDxbXAeBDxbXCsBExbXAiBExbXCkBExbXAaBEx" ++
  "bXCoBDxbXAeBDxbWSmBDpbWQcBDpbWSqBDobWQgBDobWSuBDxbWQkBDxbWSyBDrbWQoBDrbyBDqbyBDqbWDoBDpbWDo" ++
  "BDpbWDsBDobWDsBDobWDwBDxbWDwBDxbWEaBDrbWEaBDrbWEeBExbWEeBExbXDuBExbXBkBExbXDyBDxbXBoBDxbWDm" ++
  "BDpbWDmBDpbWDqBDobWDqBDobWDuBDxbWDuBDxbWDyBDrbWDyBDrbWEcBExbWEcBExbXEoBDobXCeBDobXEsBExbXCi" ++
  "BExbXEwBDxbXCmBDxbXFaBDrbXCqBDrhURuBEhbURwBEibeBDobeBDobiBDpbiBDpbmBGcbmBGcbUUwBEhbUUyBEibe" ++
  "BDobeBDobiBDpbiBDpbmBGcbmBGcbUSsBEhbUSuBEibeBDobeBDobiBDpbiBDpdUVuBEhbUVwBEibeBDobeBDobiBDpb" ++
  "iBDpdUTuBEhbUTwBEibeBDobeBDobiBDpbiBDpbmBGcbmBGcbUWwBEhbUWyBEibeBDobeBDobiBDpbiBDpbmBGcbmBGc" ++
  "bUUwBEhbUUyBEibeBDobeBDobiBDpbiBDpbmBGcbmBGcbUXyBEhbUYaBEibeBDobeBDobiBDpbiBDpbmBGcbmBGcbUVq" ++
  "BEhbUVsBEibeBDobeBDobiBDpbiBDpdUYsBEhbUYuBEibeBDobeBDobiBDpbiBDpdUWkBEhbUWmBEibeBDobeBDobi" ++
  "BDpbiBDpbmBGcbmBGccUZoBEiceBDociBDpcmBGcbUXiBEhbUXkBEibeBDobeBDobiBDpbiBDpbmBGcbmBGcbVAkBEhb" ++
  "VAmBEibeBDobeBDobiBDpbiBDpbmBGcbmBGcbVAkBDocVAgBDocVAgBDocVAgBDocUZyBDocUZqBDocUZmBDoeJwBGfb" ++
  "JwBGfbJwBGfbJwBGfbJwBGfbJwBGfbJwBGfbJwBGfbJwBGfbJwBGfbJwBGfbJwBGfbJwBGfbJwBGfbJwBGfbJwBGfbIq" ++
  "BGfbIqBGfbIqBGfbIqBGfbIqBGfbIqBGfbIqBGfbIqBGfbIqBGfbIqBGfbIqBGfbIqBGfbIqBGfbIqBGfbIqBGfbIq" ++
  "BGfbEyBGfbEyBGfbEyBGfbEyBGfbEyBGfbEyBGfbEyBGfbEyBGfbEyBGfbEyBGfbEyBGfbEyBGfbEyBGfbEyBGfbEy" ++
  "BGfbEyBGfbVFiBDubVFkBDsbFcBGfbVFoBGfbVGaBGfcVFuBGcbcBGfbVIkBDubVImBDsbVIoBDocVIsBGffXOkBGcb" ++
  "GaBGfbVGiBGfbVHcBGfcVGoBGcbcBGfbVJiBDocVJiBDocVJmBGfbBcBDobBeBDpbBgBGcbVHeBDubVHgBDsbVGaBDoe" ++
  "VHqBGcbVGkBGcbVKgBDubVKiBDsbVKkBDodCnBDobClBDpbCjBGcbVHmBDubVHoBDsbVHeBDocVIcBEhbVIeBEibVHy" ++
  "BGcbVHoBGcbVKoBDubVKqBDsbVKsBDocVLeBEibXRuBDofJcBGfbVIqBGfbVIiBGfcVIwBGcbcBGfbVMgBDocVLqBDoc" ++
  "VLuBGfPyuBFsbsBFstCaBFsBffBFsblBFsbfBFsCbcBFsfcBFsdcBFsycBFsccBFsBbkBFsdcBFsdeBFsccBFsxZWg" ++
  "BFsccBFslCmBFsbZXkBFsbZXiBFsbyBFsbyBFsdeBFsbeBFsdeBFsbeBFshmBFsbmBFsdeBFsbeBFsdeBFsbeBFsBju" ++
  "BFsbkBFsbkBFsbiBFsBxHsBFsbHsBFsbGgBFsbGgBFshEiBFsbEiBFsbEiBFsbEiBFsFBrcSKnccSKnccSKnccSKncc" ++
  "SKnccSKnccSKnccSKnccSKnccSKnccSKnccSKndcSKnccSKnccSKnhcSKnbeSKoccSKnbeSKoccSKnbeSKoccSKnbe" ++
  "SKoccSKnbeSKoxGaSKnkcSKnocSKnccSKnccSKnccSKnccSKnccSKnccSKnccSKnccSKnccSKnccSKnccSKndcSKncc" ++
  "SKnccSKnhcSKnbeSKoccSKnbeSKoccSKnbeSKoccSKnbeSKoccSKnbeSKoxGaSKndqSKnbqSKnbqSKnbqSKnecSKn" ++
  "DCPfrBDvBbuBDvEBmcDZHiccDZHipmDZHiFbfDZLnbfDZLnUuiEAGcbkEAHbCdcEALlccEAKxjgEALedcEALlCagEALe" ++
  "ckEAKubmEALlJjeEAUsbgEAUickEAUvJseEBEdbeEBEdBIjgECMqBBGbgFDSwbiFDThbkFDSxbjFDSxboFDSybkFDSxb" ++
  "kFDSxboFDSyEQqcFIJvbmFIJvbcFIJv"

end ContextCompiler.Text.CompositionTable
