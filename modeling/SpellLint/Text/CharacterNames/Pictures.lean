/-! # Names of the characters from U+1C000 on -/

set_option autoImplicit false

namespace SpellLint.Text

/-- Runs of names in the form that is described at the search for a name. -/
def picturesNames : List String := [
  "1CF00 aZNAMENNY COMBINING MARK GORAZDO NIZKO S KRYZHEM ON LEFTdNIZKO S KRYZHEM ON LEFTdTSATA ON LEFT",
  "dGORAZDO NIZKO ON LEFTdNIZKO ON LEFTdSREDNE ON LEFTdMALO POVYSHE ON LEFTdPOVYSHE ON LEFTdVYSOKO ON LEFT",
  "dMALO POVYSHE S KHOKHLOM ON LEFTdPOVYSHE S KHOKHLOM ON LEFTdVYSOKO S KHOKHLOM ON LEFT",
  "dGORAZDO NIZKO S KRYZHEM ON RIGHTdNIZKO S KRYZHEM ON RIGHTdTSATA ON RIGHTdGORAZDO NIZKO ON RIGHTdNIZKO ON RIGHT",
  "dSREDNE ON RIGHTdMALO POVYSHE ON RIGHTdPOVYSHE ON RIGHTdVYSOKO ON RIGHTdMALO POVYSHE S KHOKHLOM ON RIGHT",
  "dPOVYSHE S KHOKHLOM ON RIGHTdVYSOKO S KHOKHLOM ON RIGHTdTSATA S KRYZHEMdMALO POVYSHE S KRYZHEM",
  "dSTRANNO MALO POVYSHEdPOVYSHE S KRYZHEMeSTRANNOdVYSOKO S KRYZHEMdMALO POVYSHE STRANNOdGORAZDO VYSOKOdZELOdON",
  "dRAVNOdTIKHAYAdBORZAYAdUDARKAdPODVERTKAdLOMKAdKUPNAYAdKACHKAdZEVOKdSKOBAdRAZSEKAdKRYZH ON LEFT",
  "1CF30 cTONAL RANGE MARK MRACHNOfSVETLOfTRESVETLOcMARK ZADERZHKAdDEMESTVENNY ZADERZHKAdOTSECHKAdPODCHASHIE",
  "eWITH VERTICAL STROKEdCHASHKAePOLNAYAdOBLACHKOdSOROCHYA NOZHKAdTOCHKAdDVOETOCHIEcATTACHING VERTICAL OMET",
  "cMARK CURVED OMETdKRYZHcLOWER TONAL RANGE INDICATORbPRIZNAK MODIFIER LEVEL-2+dDIRECTION FLIPdKRYZHdROG",
  "1CF50 bNEUME KRYUKdTIKHYcPARAKLITcDVA V CHELNUcKLYUCHcZANOZHEKcSTOPITSAdS OCHKOMcPEREVODKAdNEPOSTOYANNAYA",
  "cSTOPITSA WITH SOROCHYA NOZHKAcCHELYUSTKAcPALKAcZAPYATAYAcGOLUBCHIK BORZYdTIKHYdMRACHNYdSVETLYdTRESVETLY",
  "cVRAKHIYA PROSTAYAdMRACHNAYAdSVETLAYAdTRESVETLAYAdKLYUCHEVAYA PROSTAYAeMRACHNAYAeSVETLAYAeTRESVETLAYA",
  "cDOUBLE ZAPYATAYAcREVERSED CHELYUSTKAcDERBITSAcKHAMILOcCHASHKAcPODCHASHIEcSKAMEYTSA MRACHNAYAdSVETLAYA",
  "dTRESVETLAYAdTIKHAYAcDEMESTVENNY KLYUCHcSKAMEYTSA KLYUCHEVAYA SVETLAYAdKLYUCHENEPOSTOYANNAYAdKLYUCHEVAYA TIKHAYA",
  "dDVOECHELNAYA PROSTAYAeSVETLAYAeNEPOSTOYANNAYAeKLYUCHEVAYAcSLOZHITIEdS ZAPYATOYdZAKRYTOEdS KRYZHEMcKRYZHcROG",
  "cFITAcKOBYLAcZMEYTSAcSTATYAdS ZAPYATOYeKRYZHEMeZAPYATOY I KRYZHEMeKRYZHEM I ZAPYATOYdZAKRYTAYAeS ZAPYATOY",
  "dS ROGOMeDVUMYA ZAPYATYMIeZAPYATOY I PODCHASHIEMcPOLKULIZMYcSTATYA NEPOSTOYANNAYAcSTRELA PROSTAYAdMRACHNOTIKHAYA",
  "dKRYZHEVAYAdPOLUPOVODNAYAdPOVODNAYAdNEPOSTOYANNAYAdKLYUCHEPOVODNAYAdKLYUCHENEPOSTOYANNAYAdTIKHAYA PUTNAYA",
  "dDVOECHELNAYAdDVOECHELNOKRYZHEVAYAdDVOECHELNOPOVODNAYAdDVOECHELNAYA KLYUCHEVAYAdDVOECHELNOPOVODNAYA KLYUCHEVAYA",
  "dGROMNAYA WITH SINGLE ZAPYATAYAdGROMOPOVODNAYA WITH SINGLE ZAPYATAYAdGROMNAYAdGROMOPOVODNAYA",
  "eWITH DOUBLE ZAPYATAYAdGROMOKRYZHEVAYAePOVODNAYAcMECHIKdPOVODNYdKLYUCHEVOYdKLYUCHEPOVODNYdKLYUCHENEPOSTOYANNY",
  "cSTRELA TRYASOGLASNAYAdTRYASOPOVODNAYAdTRYASOSTRELNAYAcOSOKAdSVETLAYAdTRESVETLAYAdKRYUKOVAYA SVETLAYA",
  "dKLYUCHEVAYA SVETLAYAeNEPOSTOYANNAYAcSTRELA KRYUKOVAYAePOVODNAYAeGROMNAYA WITH SINGLE ZAPYATAYA",
  "eGROMOPOVODNAYA WITH SINGLE ZAPYATAYAeGROMNAYAeGROMOPOVODNAYAfWITH DOUBLE ZAPYATAYAeGROMOKRYZHEVAYAfPOVODNAYA",
  "eTRYASKAcKUFISMAcOBLAKOcDUDAcNEMKAcPAUK",
  "1D000 aBYZANTINE MUSICAL SYMBOL PSILIdDASEIAdPERISPOMENIdOXEIA EKFONITIKONeDIPLIdVAREIA EKFONITIKONeDIPLI",
  "dKATHISTIdSYRMATIKIdPARAKLITIKIdYPOKRISISeDIPLIdKREMASTIdAPESO EKFONITIKONdEXO EKFONITIKONdTELEIAdKENTIMATA",
  "dAPOSTROFOSeDIPLIdSYNEVMAdTHITAdOLIGON ARCHAIONdGORGON ARCHAIONdPSILONdCHAMILONdVATHYdISON ARCHAION",
  "dKENTIMA ARCHAIONdKENTIMATA ARCHAIONdSAXIMATAdPARICHONdSTAVROS APODEXIAdOXEIAI ARCHAIONdVAREIAI ARCHAION",
  "dAPODERMA ARCHAIONdAPOTHEMAdKLASMAdREVMAdPIASMA ARCHAIONdTINAGMAdANATRICHISMAdSEISMAdSYNAGMA ARCHAION",
  "eMETA STAVROUdOYRANISMA ARCHAIONdTHEMAdLEMOIdDYOdTRIAdTESSERAdKRATIMATAdAPESO EXO NEOdFTHORA ARCHAIONdIMIFTHORA",
  "dTROMIKON ARCHAIONdKATAVA TROMIKONdPELASTONdPSIFISTONdKONTEVMAdCHOREVMA ARCHAIONdRAPISMAdPARAKALESMA ARCHAION",
  "dPARAKLITIKI ARCHAIONdICHADINdNANAdPETASMAdKONTEVMA ALLOdTROMIKON ALLOdSTRAGGISMATAdGRONTHISMATAdISON NEO",
  "dOLIGON NEOdOXEIA NEOdPETASTIdKOUFISMAdPETASTOKOUFISMAdKRATIMOKOUFISMAdPELASTON NEOdKENTIMATA NEO ANO",
  "dKENTIMA NEO ANOdYPSILIdAPOSTROFOS NEOdAPOSTROFOI SYNDESMOS NEOdYPORROIdKRATIMOYPORROONdELAFRONdCHAMILI",
  "dMIKRON ISONdVAREIA NEOdPIASMA NEOdPSIFISTON NEOdOMALONdANTIKENOMAdLYGISMAdPARAKLITIKI NEOdPARAKALESMA NEO",
  "dETERON PARAKALESMAdKYLISMAdANTIKENOKYLISMAdTROMIKON NEOdEKSTREPTONdSYNAGMA NEOdSYRMAdCHOREVMA NEOdEPEGERMA",
  "dSEISMA NEOdXIRON KLASMAdTROMIKOPSIFISTONdPSIFISTOLYGISMAdTROMIKOLYGISMAdTROMIKOPARAKALESMAdPSIFISTOPARAKALESMA",
  "dTROMIKOSYNAGMAdPSIFISTOSYNAGMAdGORGOSYNTHETONdARGOSYNTHETONdETERON ARGOSYNTHETONdOYRANISMA NEOdTHEMATISMOS ESO",
  "eEXOdTHEMA APLOUNdTHES KAI APOTHESdKATAVASMAdENDOFONONdYFEN KATOeANOdSTAVROSdKLASMA ANOdDIPLI ARCHAION",
  "dKRATIMA ARCHAIONeALLOeNEOdAPODERMA NEOdAPLIdDIPLIdTRIPLIdTETRAPLIdKORONISdLEIMMA ENOS CHRONOUeDYO CHRONON",
  "eTRION CHRONONeTESSARON CHRONONeIMISEOS CHRONOUdGORGON NEO ANOePARESTIGMENON ARISTERAfDEXIAdDIGORGON",
  "ePARESTIGMENON ARISTERA KATOgANOfDEXIAdTRIGORGONdARGONdIMIDIARGONdDIARGONdAGOGI POLI ARGIeARGOTERIeARGIeMETRIA",
  "eMESIeGORGIeGORGOTERIePOLI GORGIdMARTYRIA PROTOS ICHOSeALLI PROTOS ICHOSeDEYTEROS ICHOSeALLI DEYTEROS ICHOS",
  "eTRITOS ICHOSeTRIFONIASeTETARTOS ICHOSfLEGETOS ICHOSeLEGETOS ICHOSePLAGIOS ICHOSdISAKIA TELOUS ICHIMATOS",
  "dAPOSTROFOI TELOUS ICHIMATOSdFANEROSIS TETRAFONIASeMONOFONIASeDIFONIASdMARTYRIA VARYS ICHOSePROTOVARYS ICHOS",
  "ePLAGIOS TETARTOS ICHOSdGORTHMIKON N APLOUNfDIPLOUNdENARXIS KAI FTHORA VOUdIMIFONONdIMIFTHORON",
  "dFTHORA ARCHAION DEYTEROU ICHOUeDIATONIKI PAfNANAeNAOS ICHOSeDIATONIKI DIeSKLIRON DIATONON DIeDIATONIKI KEfZO",
  "fNI KATOgANOeMALAKON CHROMA DIFONIASgMONOFONIASdFHTORA SKLIRON CHROMA VASISdFTHORA SKLIRON CHROMA SYNAFIeNENANO",
  "dCHROA ZYGOSeKLITONeSPATHIdFTHORA I YFESIS TETARTIMORIONeENARMONIOS ANTIFONIAdYFESIS TRITIMORION",
  "dDIESIS TRITIMORIONeTETARTIMORIONeAPLI DYO DODEKATAeMONOGRAMMOS TESSERA DODEKATAeDIGRAMMOS EX DODEKATA",
  "eTRIGRAMMOS OKTO DODEKATAdYFESIS APLI DYO DODEKATAeMONOGRAMMOS TESSERA DODEKATAeDIGRAMMOS EX DODEKATA",
  "eTRIGRAMMOS OKTO DODEKATAdGENIKI DIESISeYFESISdDIASTOLI APLI MIKRIfMEGALIeDIPLIeTHESEOSdSIMANSIS THESEOSfDISIMOU",
  "fTRISIMOUfTETRASIMOUeARSEOSfDISIMOUfTRISIMOUfTETRASIMOUdDIGRAMMA GGdDIFTOGGOS OUdSTIGMAdARKTIKO PAeVOUeGAeDIeKE",
  "eZOeNIdKENTIMATA NEO MESOdKENTIMA NEO MESOdKENTIMATA NEO KATOdKENTIMA NEO KATOdKLASMA KATOdGORGON NEO KATO",
  "1D100 aMUSICAL SYMBOL SINGLE BARLINEcDOUBLE BARLINEcFINAL BARLINEcREVERSE FINAL BARLINEcDASHED BARLINE",
  "cSHORT BARLINEcLEFT REPEAT SIGNcRIGHT REPEAT SIGNcREPEAT DOTScDAL SEGNOcDA CAPOcSEGNOcCODAcREPEATED FIGURE-1++",
  "cFERMATAdBELOWcBREATH MARKcCAESURAcBRACEcBRACKETcONE-LINE STAFFcTWO-LINE STAFFcTHREE-LINE STAFFcFOUR-LINE STAFF",
  "cFIVE-LINE STAFFcSIX-LINE STAFFcSIX-STRING FRETBOARDcFOUR-STRING FRETBOARDcG CLEFeOTTAVA ALTAfBASSAcC CLEF",
  "cF CLEFeOTTAVA ALTAfBASSAcDRUM CLEF-1+",
  "1D129 cMULTIPLE MEASURE RESTcDOUBLE SHARPdFLATcFLAT UPdDOWNcNATURAL UPdDOWNcSHARP UPdDOWNcQUARTER TONE SHARP",
  "eFLATcCOMMON TIMEcCUT TIMEcOTTAVA ALTAdBASSAcQUINDICESIMA ALTAdBASSAcMULTI RESTcWHOLE RESTcHALF REST",
  "cQUARTER RESTcEIGHTH RESTcSIXTEENTH RESTcTHIRTY-SECOND RESTcSIXTY-FOURTH RESTcONE HUNDRED TWENTY-EIGHTH REST",
  "cX NOTEHEADcPLUS NOTEHEADcCIRCLE X NOTEHEADcSQUARE NOTEHEAD WHITEeBLACKcTRIANGLE NOTEHEAD UP WHITEfBLACK",
  "eLEFT WHITEfBLACKeRIGHT WHITEfBLACKeDOWN WHITEfBLACKeUP RIGHT WHITEgBLACKcMOON NOTEHEAD WHITEeBLACK",
  "cTRIANGLE-ROUND NOTEHEAD DOWN WHITEfBLACKcPARENTHESIS NOTEHEADcVOID NOTEHEADcNOTEHEAD BLACKcNULL NOTEHEAD",
  "cCLUSTER NOTEHEAD WHITEeBLACKcBREVEcWHOLE NOTEcHALF NOTEcQUARTER NOTEcEIGHTH NOTEcSIXTEENTH NOTE",
  "cTHIRTY-SECOND NOTEcSIXTY-FOURTH NOTEcONE HUNDRED TWENTY-EIGHTH NOTEcCOMBINING STEMdSPRECHGESANG STEMdTREMOLO-1+",
  "+cFINGERED TREMOLO-1++cCOMBINING AUGMENTATION DOTdFLAG-1++++cBEGIN BEAMcEND BEAMcBEGIN TIEcEND TIEcBEGIN SLUR",
  "cEND SLURcBEGIN PHRASEcEND PHRASEcCOMBINING ACCENTdSTACCATOdTENUTOdSTACCATISSIMOdMARCATOdMARCATO-STACCATO",
  "dACCENT-STACCATOdLOUREcARPEGGIATO UPdDOWNcCOMBINING DOITdRIPdFLIPdSMEARdBENDdDOUBLE TONGUEdTRIPLE TONGUE",
  "cRINFORZANDOcSUBITOcZcPIANOcMEZZOcFORTEcCRESCENDOcDECRESCENDOcGRACE NOTE SLASHeNO SLASHcTRcTURNcINVERTED TURN",
  "cTURN SLASHdUPcORNAMENT STROKE-1++++++++++cHAUPTSTIMMEcNEBENSTIMMEcEND OF STIMMEcDEGREE SLASHcCOMBINING DOWN BOW",
  "dUP BOWdHARMONICdSNAP PIZZICATOcPEDAL MARKdUP MARKcHALF PEDAL MARKcGLISSANDO UPdDOWNcWITH FINGERNAILScDAMPdALL",
  "cMAXIMAcLONGAcBREVIScSEMIBREVIS WHITEdBLACKcMINIMAdBLACKcSEMIMINIMA WHITEdBLACKcFUSA WHITEdBLACK",
  "cLONGA PERFECTA RESTdIMPERFECTA RESTcBREVIS RESTcSEMIBREVIS RESTcMINIMA RESTcSEMIMINIMA REST",
  "cTEMPUS PERFECTUM CUM PROLATIONE PERFECTAgIMPERFECTAgPERFECTA DIMINUTION-1dIMPERFECTUM CUM PROLATIONE PERFECTA",
  "gIMPERFECTAhDIMINUTION-1++cCROIXcGREGORIAN C CLEFdF CLEFcSQUARE BcVIRGAcPODATUScCLIVIScSCANDICUScCLIMACUS",
  "cTORCULUScPORRECTUSdFLEXUScSCANDICUS FLEXUScTORCULUS RESUPINUScPES SUBPUNCTIScKIEVAN C CLEFdEND OF PIECE",
  "dFINAL NOTEdRECITATIVE MARKdWHOLE NOTEdHALF NOTEdQUARTER NOTE STEM DOWNgUPdEIGHTH NOTE STEM DOWNgUPdFLAT SIGN",
  "cSORIcKORON",
  "1D200 aGREEK VOCAL NOTATION SYMBOL-1+++++++++++++++++++++++dSYMBOL-50++++bINSTRUMENTAL NOTATION SYMBOL-1+",
  "dSYMBOL-4+dSYMBOL-7+dSYMBOL-11+++dSYMBOL-17++dSYMBOL-23++++dSYMBOL-29+dSYMBOL-32dSYMBOL-36++++dSYMBOL-42+",
  "dSYMBOL-45dSYMBOL-47+++++++aCOMBINING GREEK MUSICAL TRISEMEdTETRASEMEdPENTASEMEaGREEK MUSICAL LEIMMA",
  "1D2E0 aMAYAN NUMERAL ZEROcONEcTWOcTHREEcFOURcFIVEcSIXcSEVENcEIGHTcNINEcTENcELEVENcTWELVEcTHIRTEENcFOURTEEN",
  "cFIFTEENcSIXTEENcSEVENTEENcEIGHTEENcNINETEEN",
  "1D300 aMONOGRAM FOR EARTHaDIGRAM FOR HEAVENLY EARTHcHUMAN EARTHcEARTHLY HEAVENdHUMANcEARTHaTETRAGRAM FOR CENTRE",
  "cFULL CIRCLEcMIREDcBARRIERcKEEPING SMALLcCONTRARIETYcASCENTcOPPOSITIONcBRANCHING OUTcDEFECTIVENESS OR DISTORTION",
  "cDIVERGENCEcYOUTHFULNESScINCREASEcPENETRATIONcREACHcCONTACTcHOLDING BACKcWAITINGcFOLLOWINGcADVANCEcRELEASE",
  "cRESISTANCEcEASEcJOYcCONTENTIONcENDEAVOURcDUTIEScCHANGEcDECISIVENESScBOLD RESOLUTIONcPACKINGcLEGIONcCLOSENESS",
  "cKINSHIPcGATHERINGcSTRENGTHcPURITYcFULLNESScRESIDENCEcLAW OR MODELcRESPONSEcGOING TO MEETcENCOUNTERScSTOVE",
  "cGREATNESScENLARGEMENTcPATTERNcRITUALcFLIGHTcVASTNESS OR WASTINGcCONSTANCYcMEASUREcETERNITYcUNITYcDIMINISHMENT",
  "cCLOSED MOUTHcGUARDEDNESScGATHERING INcMASSINGcACCUMULATIONcEMBELLISHMENTcDOUBTcWATCHcSINKINGcINNERcDEPARTURE",
  "cDARKENINGcDIMMINGcEXHAUSTIONcSEVERANCEcSTOPPAGEcHARDNESScCOMPLETIONcCLOSUREcFAILUREcAGGRAVATIONcCOMPLIANCE",
  "cON THE VERGEcDIFFICULTIEScLABOURINGcFOSTERING",
  "1D360 aCOUNTING ROD UNIT DIGIT ONEeTWOeTHREEeFOUReFIVEeSIXeSEVENeEIGHTeNINEcTENS DIGIT ONEeTWOeTHREEeFOUReFIVE",
  "eSIXeSEVENeEIGHTeNINEaIDEOGRAPHIC TALLY MARK ONEdTWOdTHREEdFOURdFIVEaTALLY MARK ONEcFIVE",
  "1D400 aMATHEMATICAL BOLD CAPITAL AdBdCdDdEdFdGdHdIdJdKdLdMdNdOdPdQdRdSdTdUdVdWdXdYdZcSMALL AdBdCdDdEdFdGdHdIdJdK",
  "dLdMdNdOdPdQdRdSdTdUdVdWdXdYdZbITALIC CAPITAL AdBdCdDdEdFdGdHdIdJdKdLdMdNdOdPdQdRdSdTdUdVdWdXdYdZcSMALL AdBdCdD",
  "dEdFdG",
  "1D456 dIdJdKdLdMdNdOdPdQdRdSdTdUdVdWdXdYdZbBOLD ITALIC CAPITAL AeBeCeDeEeFeGeHeIeJeKeLeMeNeOePeQeReSeTeUeVeWeXeY",
  "eZdSMALL AeBeCeDeEeFeGeHeIeJeKeLeMeNeOePeQeReSeTeUeVeWeXeYeZbSCRIPT CAPITAL A",
  "1D49E dCdD",
  "1D4A2 dG",
  "1D4A5 dJdK",
  "1D4A9 dNdOdPdQ",
  "1D4AE dSdTdUdVdWdXdYdZcSMALL AdBdCdD",
  "1D4BB dF",
  "1D4BD dHdIdJdKdLdMdN",
  "1D4C5 dPdQdRdSdTdUdVdWdXdYdZbBOLD SCRIPT CAPITAL AeBeCeDeEeFeGeHeIeJeKeLeMeNeOePeQeReSeTeUeVeWeXeYeZdSMALL AeBeC",
  "eDeEeFeGeHeIeJeKeLeMeNeOePeQeReSeTeUeVeWeXeYeZbFRAKTUR CAPITAL AdB",
  "1D507 dDdEdFdG",
  "1D50D dJdKdLdMdNdOdPdQ",
  "1D516 dSdTdUdVdWdXdY",
  "1D51E cSMALL AdBdCdDdEdFdGdHdIdJdKdLdMdNdOdPdQdRdSdTdUdVdWdXdYdZbDOUBLE-STRUCK CAPITAL AdB",
  "1D53B dDdEdFdG",
  "1D540 dIdJdKdLdM",
  "1D546 dO",
  "1D54A dSdTdUdVdWdXdY",
  "1D552 cSMALL AdBdCdDdEdFdGdHdIdJdKdLdMdNdOdPdQdRdSdTdUdVdWdXdYdZbBOLD FRAKTUR CAPITAL AeBeCeDeEeFeGeHeIeJeKeLeM",
  "eNeOePeQeReSeTeUeVeWeXeYeZdSMALL AeBeCeDeEeFeGeHeIeJeKeLeMeNeOePeQeReSeTeUeVeWeXeYeZbSANS-SERIF CAPITAL AdBdCdD",
  "dEdFdGdHdIdJdKdLdMdNdOdPdQdRdSdTdUdVdWdXdYdZcSMALL AdBdCdDdEdFdGdHdIdJdKdLdMdNdOdPdQdRdSdTdUdVdWdXdYdZ",
  "cBOLD CAPITAL AeBeCeDeEeFeGeHeIeJeKeLeMeNeOePeQeReSeTeUeVeWeXeYeZdSMALL AeBeCeDeEeFeGeHeIeJeKeLeMeNeOePeQeReSeT",
  "eUeVeWeXeYeZcITALIC CAPITAL AeBeCeDeEeFeGeHeIeJeKeLeMeNeOePeQeReSeTeUeVeWeXeYeZdSMALL AeBeCeDeEeFeGeHeIeJeKeLeM",
  "eNeOePeQeReSeTeUeVeWeXeYeZcBOLD ITALIC CAPITAL AfBfCfDfEfFfGfHfIfJfKfLfMfNfOfPfQfRfSfTfUfVfWfXfYfZeSMALL AfBfCfD",
  "fEfFfGfHfIfJfKfLfMfNfOfPfQfRfSfTfUfVfWfXfYfZbMONOSPACE CAPITAL AdBdCdDdEdFdGdHdIdJdKdLdMdNdOdPdQdRdSdTdUdVdWdXdY",
  "dZcSMALL AdBdCdDdEdFdGdHdIdJdKdLdMdNdOdPdQdRdSdTdUdVdWdXdYdZbITALIC SMALL DOTLESS IeJ",
  "1D6A8 bBOLD CAPITAL ALPHAdBETAdGAMMAdDELTAdEPSILONdZETAdETAdTHETAdIOTAdKAPPAdLAMDAdMUdNUdXIdOMICRONdPIdRHO",
  "dTHETA SYMBOLdSIGMAdTAUdUPSILONdPHIdCHIdPSIdOMEGAcNABLAcSMALL ALPHAdBETAdGAMMAdDELTAdEPSILONdZETAdETAdTHETAdIOTA",
  "dKAPPAdLAMDAdMUdNUdXIdOMICRONdPIdRHOdFINAL SIGMAdSIGMAdTAUdUPSILONdPHIdCHIdPSIdOMEGAcPARTIAL DIFFERENTIAL",
  "cEPSILON SYMBOLcTHETA SYMBOLcKAPPA SYMBOLcPHI SYMBOLcRHO SYMBOLcPI SYMBOLbITALIC CAPITAL ALPHAdBETAdGAMMAdDELTA",
  "dEPSILONdZETAdETAdTHETAdIOTAdKAPPAdLAMDAdMUdNUdXIdOMICRONdPIdRHOdTHETA SYMBOLdSIGMAdTAUdUPSILONdPHIdCHIdPSI",
  "dOMEGAcNABLAcSMALL ALPHAdBETAdGAMMAdDELTAdEPSILONdZETAdETAdTHETAdIOTAdKAPPAdLAMDAdMUdNUdXIdOMICRONdPIdRHO",
  "dFINAL SIGMAdSIGMAdTAUdUPSILONdPHIdCHIdPSIdOMEGAcPARTIAL DIFFERENTIALcEPSILON SYMBOLcTHETA SYMBOLcKAPPA SYMBOL",
  "cPHI SYMBOLcRHO SYMBOLcPI SYMBOLbBOLD ITALIC CAPITAL ALPHAeBETAeGAMMAeDELTAeEPSILONeZETAeETAeTHETAeIOTAeKAPPA",
  "eLAMDAeMUeNUeXIeOMICRONePIeRHOeTHETA SYMBOLeSIGMAeTAUeUPSILONePHIeCHIePSIeOMEGAdNABLAdSMALL ALPHAeBETAeGAMMA",
  "eDELTAeEPSILONeZETAeETAeTHETAeIOTAeKAPPAeLAMDAeMUeNUeXIeOMICRONePIeRHOeFINAL SIGMAeSIGMAeTAUeUPSILONePHIeCHIePSI",
  "eOMEGAdPARTIAL DIFFERENTIALdEPSILON SYMBOLdTHETA SYMBOLdKAPPA SYMBOLdPHI SYMBOLdRHO SYMBOLdPI SYMBOL",
  "bSANS-SERIF BOLD CAPITAL ALPHAeBETAeGAMMAeDELTAeEPSILONeZETAeETAeTHETAeIOTAeKAPPAeLAMDAeMUeNUeXIeOMICRONePIeRHO",
  "eTHETA SYMBOLeSIGMAeTAUeUPSILONePHIeCHIePSIeOMEGAdNABLAdSMALL ALPHAeBETAeGAMMAeDELTAeEPSILONeZETAeETAeTHETAeIOTA",
  "eKAPPAeLAMDAeMUeNUeXIeOMICRONePIeRHOeFINAL SIGMAeSIGMAeTAUeUPSILONePHIeCHIePSIeOMEGAdPARTIAL DIFFERENTIAL",
  "dEPSILON SYMBOLdTHETA SYMBOLdKAPPA SYMBOLdPHI SYMBOLdRHO SYMBOLdPI SYMBOLdITALIC CAPITAL ALPHAfBETAfGAMMAfDELTA",
  "fEPSILONfZETAfETAfTHETAfIOTAfKAPPAfLAMDAfMUfNUfXIfOMICRONfPIfRHOfTHETA SYMBOLfSIGMAfTAUfUPSILONfPHIfCHIfPSI",
  "fOMEGAeNABLAeSMALL ALPHAfBETAfGAMMAfDELTAfEPSILONfZETAfETAfTHETAfIOTAfKAPPAfLAMDAfMUfNUfXIfOMICRONfPIfRHO",
  "fFINAL SIGMAfSIGMAfTAUfUPSILONfPHIfCHIfPSIfOMEGAePARTIAL DIFFERENTIALeEPSILON SYMBOLeTHETA SYMBOLeKAPPA SYMBOL",
  "ePHI SYMBOLeRHO SYMBOLePI SYMBOLbBOLD CAPITAL DIGAMMA~",
  "1D7CE cDIGIT ZEROdONEdTWOdTHREEdFOURdFIVEdSIXdSEVENdEIGHTdNINEbDOUBLE-STRUCK DIGIT ZEROdONEdTWOdTHREEdFOURdFIVE",
  "dSIXdSEVENdEIGHTdNINEbSANS-SERIF DIGIT ZEROdONEdTWOdTHREEdFOURdFIVEdSIXdSEVENdEIGHTdNINEcBOLD DIGIT ZEROeONEeTWO",
  "eTHREEeFOUReFIVEeSIXeSEVENeEIGHTeNINEbMONOSPACE DIGIT ZEROdONEdTWOdTHREEdFOURdFIVEdSIXdSEVENdEIGHTdNINE",
  "aSIGNWRITING HAND-FIST INDEXbHAND-CIRCLE INDEXbHAND-CUP INDEXbHAND-OVAL INDEXbHAND-HINGE INDEXbHAND-ANGLE INDEX",
  "bHAND-FIST INDEX BENTbHAND-CIRCLE INDEX BENTbHAND-FIST THUMB UNDER INDEX BENTcINDEX RAISED KNUCKLEdCUPPEDdHINGED",
  "eLOWbHAND-CIRCLE INDEX HINGEbHAND-FIST INDEX MIDDLEbHAND-CIRCLE INDEX MIDDLEbHAND-FIST INDEX MIDDLE BENT",
  "eRAISED KNUCKLESeHINGEDdUP MIDDLE HINGEDdHINGED MIDDLE UPdMIDDLE CONJOINEDfINDEX BENTfMIDDLE BENTfCUPPEDfHINGED",
  "eCROSSEDbHAND-CIRCLE INDEX MIDDLE CROSSEDbHAND-FIST MIDDLE BENT OVER INDEXcINDEX BENT OVER MIDDLEdMIDDLE THUMB",
  "bHAND-CIRCLE INDEX MIDDLE THUMBbHAND-FIST INDEX MIDDLE STRAIGHT THUMB BENTeBENT THUMB STRAIGHTeTHUMB BENT",
  "eHINGED SPREAD THUMB SIDEdUP MIDDLE HINGED THUMB SIDEhCONJOINEDdHINGED MIDDLE UP THUMB SIDE",
  "dMIDDLE UP SPREAD THUMB FORWARDeTHUMB CUPPEDfCIRCLEDfHOOKEDfHINGEDcTHUMB BETWEEN INDEX MIDDLE STRAIGHT",
  "cINDEX MIDDLE CONJOINED THUMB SIDEhCONJOINEDhBENTcMIDDLE THUMB HOOKED INDEX UPcINDEX THUMB HOOKED MIDDLE UP",
  "dMIDDLE CONJOINED HINGED THUMB SIDEeCROSSED THUMB SIDEeCONJOINED THUMB FORWARDfCUPPED THUMB FORWARD",
  "cMIDDLE THUMB CUPPED INDEX UPcINDEX THUMB CUPPED MIDDLE UPcMIDDLE THUMB CIRCLED INDEX UPgHINGED",
  "cINDEX THUMB ANGLED OUT MIDDLE UPfIN MIDDLE UPeCIRCLED MIDDLE UPdMIDDLE THUMB CONJOINED HINGEDfANGLED OUTfANGLED",
  "cMIDDLE THUMB ANGLED OUT INDEX UPhCROSSEDfINDEX UPcINDEX THUMB HOOKED MIDDLE HINGEDbHAND-FLAT FOUR FINGERSeBENT",
  "eHINGEDeCONJOINEDfSPLITbHAND-CLAW FOUR FINGERS CONJOINEDbHAND-FIST FOUR FINGERS CONJOINED BENT",
  "bHAND-HINGE FOUR FINGERS CONJOINEDbHAND-FLAT FIVE FINGERS SPREADcHEEL FIVE FINGERS SPREAD",
  "cFIVE FINGERS SPREAD FOUR BENTcHEEL FIVE FINGERS SPREAD FOUR BENTcFIVE FINGERS SPREAD BENT",
  "cHEEL FIVE FINGERS SPREAD BENTcFIVE FINGERS SPREAD THUMB FORWARDbHAND-CUP FIVE FINGERS SPREADfOPEN",
  "bHAND-HINGE FIVE FINGERS SPREAD OPENbHAND-OVAL FIVE FINGERS SPREADbHAND-FLAT FIVE FINGERS SPREAD HINGED",
  "gTHUMB SIDEgNO THUMBbHAND-FLATcBETWEEN PALM FACINGScHEELcTHUMB SIDEcHEEL THUMB SIDEcTHUMB BENTdFORWARD",
  "cSPLIT INDEX THUMB SIDEdCENTREeTHUMB SIDEgBENTdLITTLEbHAND-CLAWcTHUMB SIDEcNO THUMBcTHUMB FORWARD",
  "bHAND-HOOK CURLICUEbHAND-HOOKbHAND-CUP OPENbHAND-CUPcOPEN THUMB SIDEcTHUMB SIDEcOPEN NO THUMBcNO THUMB",
  "cOPEN THUMB FORWARDcTHUMB FORWARDbHAND-CURLICUE OPENbHAND-CURLICUEbHAND-CIRCLEbHAND-OVALcTHUMB SIDEcNO THUMB",
  "cTHUMB FORWARDbHAND-HINGE OPENdTHUMB FORWARDbHAND-HINGEcSMALLcOPEN THUMB SIDEcTHUMB SIDEcOPEN NO THUMBcNO THUMB",
  "cTHUMB SIDE TOUCHING INDEXdBETWEEN MIDDLE RINGbHAND-ANGLEbHAND-FIST INDEX MIDDLE RING",
  "bHAND-CIRCLE INDEX MIDDLE RINGbHAND-HINGE INDEX MIDDLE RINGbHAND-ANGLE INDEX MIDDLE RINGbHAND-HINGE LITTLE",
  "bHAND-FIST INDEX MIDDLE RING BENTfCONJOINEDbHAND-HINGE INDEX MIDDLE RING CONJOINEDbHAND-FIST LITTLE DOWN",
  "eRIPPLE STRAIGHTfCURVEDeOTHERS CIRCLEDdUPcTHUMB UNDER LITTLE UPbHAND-CIRCLE LITTLE UPbHAND-OVAL LITTLE UP",
  "bHAND-ANGLE LITTLE UPbHAND-FIST LITTLE RAISED KNUCKLEdBENTdTOUCHES THUMBdTHUMBbHAND-HINGE LITTLE THUMB",
  "bHAND-FIST LITTLE INDEX THUMBbHAND-HINGE LITTLE INDEX THUMBbHAND-ANGLE LITTLE INDEX THUMB INDEX THUMB OUTgTHUMB",
  "bHAND-FIST LITTLE INDEXbHAND-CIRCLE LITTLE INDEXbHAND-HINGE LITTLE INDEXbHAND-ANGLE LITTLE INDEX",
  "bHAND-FIST INDEX MIDDLE LITTLEbHAND-CIRCLE INDEX MIDDLE LITTLEbHAND-HINGE INDEX MIDDLE LITTLEcRING",
  "bHAND-ANGLE INDEX MIDDLE LITTLEbHAND-FIST INDEX MIDDLE CROSS LITTLEbHAND-CIRCLE INDEX MIDDLE CROSS LITTLE",
  "bHAND-FIST RING DOWNbHAND-HINGE RING DOWN INDEX THUMB HOOK MIDDLEbHAND-ANGLE RING DOWN MIDDLE THUMB INDEX CROSS",
  "bHAND-FIST RING UPdRAISED KNUCKLEdLITTLEbHAND-CIRCLE RING LITTLEbHAND-OVAL RING LITTLEbHAND-ANGLE RING LITTLE",
  "bHAND-FIST RING MIDDLEeCONJOINEDeRAISED KNUCKLESdINDEXdTHUMBbHAND-HOOK RING THUMBbHAND-FIST INDEX RING LITTLE",
  "bHAND-CIRCLE INDEX RING LITTLEbHAND-CURLICUE INDEX RING LITTLE ONbHAND-HOOK INDEX RING LITTLE OUTfINfUNDER",
  "bHAND-CUP INDEX RING LITTLEbHAND-HINGE INDEX RING LITTLEbHAND-ANGLE INDEX RING LITTLE OUTeLITTLE",
  "bHAND-FIST MIDDLE DOWNbHAND-HINGE MIDDLEbHAND-FIST MIDDLE UPbHAND-CIRCLE MIDDLE UP",
  "bHAND-FIST MIDDLE RAISED KNUCKLEdUP THUMB SIDEbHAND-HOOK MIDDLE THUMBbHAND-FIST MIDDLE THUMB LITTLEdLITTLE",
  "dRING LITTLEbHAND-CIRCLE MIDDLE RING LITTLEbHAND-CURLICUE MIDDLE RING LITTLE ONbHAND-CUP MIDDLE RING LITTLE",
  "bHAND-HINGE MIDDLE RING LITTLEbHAND-ANGLE MIDDLE RING LITTLE OUTfINeLITTLEbHAND-CIRCLE MIDDLE RING LITTLE BENT",
  "bHAND-CLAW MIDDLE RING LITTLE CONJOINEDgSIDEbHAND-HOOK MIDDLE RING LITTLE CONJOINED OUTgINfCONJOINED",
  "bHAND-HINGE INDEX HINGEDbHAND-FIST INDEX THUMB SIDEbHAND-HINGE INDEX THUMB SIDE",
  "bHAND-FIST INDEX THUMB SIDE THUMB DIAGONALgCONJOINEDgBENTfINDEX BENTfBOTH BENTfINDEX HINGE",
  "eFORWARD INDEX STRAIGHTgBENTeHOOKeCURLICUEeCURVE THUMB INSIDEbHAND-CLAW INDEX THUMB CURVE THUMB INSIDE",
  "bHAND-FIST INDEX THUMB CURVE THUMB UNDEReCIRCLEbHAND-CUP INDEX THUMBeOPENbHAND-HINGE INDEX THUMB OPENeLARGE",
  "dTHUMBeSMALLbHAND-ANGLE INDEX THUMB OUTeINdTHUMBbHAND-FIST THUMBdHEELdSIDE DIAGONALeCONJOINEDeBENTdFORWARD",
  "dBETWEEN INDEX MIDDLEeMIDDLE RINGeRING LITTLEdUNDER TWO FINGERSdOVER TWO FINGERSdUNDER THREE FINGERS",
  "eFOUR FINGERSdOVER FOUR RAISED KNUCKLESbHAND-FISTcHEELbTOUCH SINGLEcMULTIPLEcBETWEENbGRASP SINGLEcMULTIPLE",
  "cBETWEENbSTRIKE SINGLEcMULTIPLEcBETWEENbBRUSH SINGLEcMULTIPLEcBETWEENbRUB SINGLEcMULTIPLEcBETWEEN",
  "bSURFACE SYMBOLScBETWEENbSQUEEZE LARGE SINGLEcSMALL SINGLEcLARGE MULTIPLEcSMALL MULTIPLEcSEQUENTIAL",
  "bFLICK LARGE SINGLEcSMALL SINGLEcLARGE MULTIPLEcSMALL MULTIPLEcSEQUENTIALbSQUEEZE FLICK ALTERNATING",
  "bMOVEMENT-HINGE UP DOWN LARGEeSMALLdSEQUENTIALcDOWN SEQUENTIALcUP DOWN ALTERNATING LARGEfSMALL",
  "cSIDE TO SIDE SCISSORSbMOVEMENT-WALLPLANE FINGER CONTACTbMOVEMENT-FLOORPLANE FINGER CONTACT",
  "bMOVEMENT-WALLPLANE SINGLE STRAIGHT SMALLeMEDIUMeLARGEeLARGESTdWRIST FLEXcDOUBLE STRAIGHTdWRIST FLEXdALTERNATING",
  "eWRIST FLEXcCROSScTRIPLE STRAIGHT MOVEMENTdWRIST FLEXdALTERNATINGeWRIST FLEXcBEND SMALLdMEDIUMdLARGE",
  "cCORNER SMALLdMEDIUMdLARGEdROTATIONcCHECK SMALLdMEDIUMdLARGEcBOX SMALLdMEDIUMdLARGEcZIGZAG SMALLdMEDIUMdLARGE",
  "cPEAKS SMALLdMEDIUMdLARGEbTRAVEL-WALLPLANE ROTATION-WALLPLANE SINGLEdDOUBLEdALTERNATING",
  "cROTATION-FLOORPLANE SINGLEdDOUBLEdALTERNATINGcSHAKINGcARM SPIRAL SINGLEeDOUBLEeTRIPLE",
  "bMOVEMENT-DIAGONAL AWAY SMALLdMEDIUMdLARGEdLARGESTcTOWARDS SMALLdMEDIUMdLARGEdLARGESTcBETWEEN AWAY SMALLeMEDIUM",
  "eLARGEeLARGESTdTOWARDS SMALLeMEDIUMeLARGEeLARGESTbMOVEMENT-FLOORPLANE SINGLE STRAIGHT SMALLeMEDIUMeLARGEeLARGEST",
  "dWRIST FLEXcDOUBLE STRAIGHTdWRIST FLEXdALTERNATINGeWRIST FLEXcCROSScTRIPLE STRAIGHT MOVEMENTdWRIST FLEX",
  "dALTERNATING MOVEMENTeWRIST FLEXcBENDcCORNER SMALLdMEDIUMdLARGEcCHECKcBOX SMALLdMEDIUMdLARGEcZIGZAG SMALLdMEDIUM",
  "dLARGEcPEAKS SMALLdMEDIUMdLARGEbTRAVEL-FLOORPLANE ROTATION-FLOORPLANE SINGLEdDOUBLEdALTERNATING",
  "cROTATION-WALLPLANE SINGLEdDOUBLEdALTERNATINGcSHAKINGbMOVEMENT-WALLPLANE CURVE QUARTER SMALLeMEDIUMeLARGE",
  "eLARGESTdHALF-CIRCLE SMALLeMEDIUMeLARGEeLARGESTdTHREE-QUARTER CIRCLE SMALLfMEDIUMcHUMP SMALLdMEDIUMdLARGE",
  "cLOOP SMALLdMEDIUMdLARGEdSMALL DOUBLEcWAVE CURVE DOUBLE SMALLfMEDIUMfLARGEeTRIPLE SMALLfMEDIUMfLARGE",
  "cCURVE THEN STRAIGHTcCURVED CROSS SMALLeMEDIUMbROTATION-WALLPLANE SINGLEcDOUBLEcALTERNATE",
  "bMOVEMENT-WALLPLANE SHAKINGcCURVE HITTING FRONT WALLcHUMP HITTING FRONT WALLcLOOP HITTING FRONT WALL",
  "cWAVE HITTING FRONT WALLbROTATION-WALLPLANE SINGLE HITTING FRONT WALLcDOUBLE HITTING FRONT WALL",
  "cALTERNATING HITTING FRONT WALLbMOVEMENT-WALLPLANE CURVE HITTING CHESTcHUMP HITTING CHESTcLOOP HITTING CHEST",
  "cWAVE HITTING CHESTbROTATION-WALLPLANE SINGLE HITTING CHESTcDOUBLE HITTING CHESTcALTERNATING HITTING CHEST",
  "bMOVEMENT-WALLPLANE WAVE DIAGONAL PATH SMALLfMEDIUMfLARGEbMOVEMENT-FLOORPLANE CURVE HITTING CEILING SMALLfLARGE",
  "cHUMP HITTING CEILING SMALL DOUBLEfLARGE DOUBLEfSMALL TRIPLEfLARGE TRIPLEcLOOP HITTING CEILING SMALL SINGLE",
  "fLARGE SINGLEfSMALL DOUBLEfLARGE DOUBLEcWAVE HITTING CEILING SMALLfLARGE",
  "bROTATION-FLOORPLANE SINGLE HITTING CEILINGcDOUBLE HITTING CEILINGcALTERNATING HITTING CEILING",
  "bMOVEMENT-FLOORPLANE CURVE HITTING FLOOR SMALLfLARGEcHUMP HITTING FLOOR SMALL DOUBLEfLARGE DOUBLE",
  "fTRIPLE SMALL TRIPLEgLARGE TRIPLEcLOOP HITTING FLOOR SMALL SINGLEfLARGE SINGLEfSMALL DOUBLEfLARGE DOUBLE",
  "cWAVE HITTING FLOOR SMALLfLARGEbROTATION-FLOORPLANE SINGLE HITTING FLOORcDOUBLE HITTING FLOOR",
  "cALTERNATING HITTING FLOORbMOVEMENT-FLOORPLANE CURVE SMALLdMEDIUMdLARGEdLARGESTdCOMBINEDcHUMP SMALLcLOOP SMALL",
  "cWAVE SNAKEdSMALLdLARGEbROTATION-FLOORPLANE SINGLEcDOUBLEcALTERNATINGbMOVEMENT-FLOORPLANE SHAKING PARALLEL",
  "bMOVEMENT-WALLPLANE ARM CIRCLE SMALL SINGLEeMEDIUM SINGLEeSMALL DOUBLEeMEDIUM DOUBLE",
  "bMOVEMENT-FLOORPLANE ARM CIRCLE HITTING WALL SMALL SINGLEgMEDIUM SINGLEgLARGE SINGLEgSMALL DOUBLEgMEDIUM DOUBLE",
  "gLARGE DOUBLEbMOVEMENT-WALLPLANE WRIST CIRCLE FRONT SINGLEfDOUBLE",
  "bMOVEMENT-FLOORPLANE WRIST CIRCLE HITTING WALL SINGLEgDOUBLEbMOVEMENT-WALLPLANE FINGER CIRCLES SINGLEeDOUBLE",
  "bMOVEMENT-FLOORPLANE FINGER CIRCLES HITTING WALL SINGLEgDOUBLEbDYNAMIC ARROWHEAD SMALLdLARGEcFASTcSLOWcTENSE",
  "cRELAXEDcSIMULTANEOUSdALTERNATINGcEVERY OTHER TIMEcGRADUALbHEADcRIMcMOVEMENT-WALLPLANE STRAIGHTdTILT",
  "cMOVEMENT-FLOORPLANE STRAIGHTcMOVEMENT-WALLPLANE CURVEcMOVEMENT-FLOORPLANE CURVEcMOVEMENT CIRCLE",
  "bFACE DIRECTION POSITION NOSE FORWARD TILTINGfUP OR DOWNiTILTINGbEYEBROWS STRAIGHT UPdNEUTRALdDOWN",
  "bDREAMY EYEBROWS NEUTRAL DOWNdDOWN NEUTRALdUP NEUTRALdNEUTRAL UPbFOREHEAD NEUTRALcCONTACTcWRINKLEDbEYES OPEN",
  "cSQUEEZEDcCLOSEDbEYE BLINK SINGLEdMULTIPLEbEYES HALF OPENcWIDE OPENcHALF CLOSEDcWIDENING MOVEMENTbEYE WINK",
  "bEYELASHES UPcDOWNcFLUTTERINGbEYEGAZE-WALLPLANE STRAIGHTdDOUBLEdALTERNATINGbEYEGAZE-FLOORPLANE STRAIGHTdDOUBLE",
  "dALTERNATINGbEYEGAZE-WALLPLANE CURVEDbEYEGAZE-FLOORPLANE CURVEDbEYEGAZE-WALLPLANE CIRCLINGbCHEEKS PUFFEDcNEUTRAL",
  "cSUCKEDbTENSE CHEEKS HIGHdMIDDLEdLOWbEARSbNOSE NEUTRALcCONTACTcWRINKLEScWIGGLESbAIR BLOWING OUTcSUCKING IN",
  "cBLOW SMALL ROTATIONScSUCK SMALL ROTATIONSbBREATH INHALEcEXHALEbMOUTH CLOSED NEUTRALdFORWARDdCONTACTcSMILE",
  "dWRINKLEDdOPENcFROWNdWRINKLEDdOPENcOPEN CIRCLEdFORWARDdWRINKLEDdOVALeWRINKLEDeYAWNdRECTANGLEeWRINKLEDeYAWNcKISS",
  "dFORWARDdWRINKLEDcTENSEdFORWARDdSUCKEDbLIPS PRESSED TOGETHERbLIP LOWER OVER UPPERcUPPER OVER LOWERbMOUTH CORNERS",
  "cWRINKLES SINGLEdDOUBLEbTONGUE STICKING OUT FARcLICKING LIPScTIP BETWEEN LIPSdTOUCHING INSIDE MOUTH",
  "cINSIDE MOUTH RELAXEDcMOVES AGAINST CHEEKcCENTRE STICKING OUTdINSIDE MOUTHbTEETHcMOVEMENTcON TONGUEeMOVEMENT",
  "dLIPSeMOVEMENTcBITE LIPSbMOVEMENT-WALLPLANE JAWbMOVEMENT-FLOORPLANE JAWbNECKbHAIRbEXCITEMENTbSHOULDER HIP SPINE",
  "dPOSITIONSbWALLPLANE SHOULDER HIP MOVEbFLOORPLANE SHOULDER HIP MOVEbSHOULDER TILTING FROM WAIST",
  "bTORSO-WALLPLANE STRAIGHT STRETCHcCURVED BENDbTORSO-FLOORPLANE TWISTINGbUPPER BODY TILTING FROM HIP JOINTS",
  "bLIMB COMBINATIONcLENGTH-1++++++bFINGERbLOCATION-WALLPLANE SPACEbLOCATION-FLOORPLANE SPACEbLOCATION HEIGHTcWIDTH",
  "cDEPTHcHEAD NECKcTORSOcLIMBS DIGITSbCOMMAbFULL STOPbSEMICOLONbCOLONbPARENTHESIS",
  "1DA9B bFILL MODIFIER-2++++",
  "1DAA1 bROTATION MODIFIER-2++++++++++++++",
  "1DF00 aLATIN SMALL LETTER FENG DIGRAPH WITH TRILLdREVERSED SCRIPT GbLETTER SMALL CAPITAL TURNED G",
  "bSMALL LETTER REVERSED KbLETTER SMALL CAPITAL L WITH BELTbSMALL LETTER LEZH WITH RETROFLEX HOOK",
  "dTURNED Y WITH BELTdREVERSED ENGdTURNED R WITH LONG LEG AND RETROFLEX HOOKdT WITH HOOK AND RETROFLEX HOOK",
  "bLETTER RETROFLEX CLICK WITH RETROFLEX HOOKbSMALL LETTER ESH WITH DOUBLE BARhAND CURLdTURNED T WITH CURL",
  "bLETTER INVERTED GLOTTAL STOP WITH CURLcSTRETCHED C WITH CURLcSMALL CAPITAL TURNED K",
  "bSMALL LETTER L WITH FISHHOOKdDEZH DIGRAPH WITH PALATAL HOOKdL WITH BELT AND PALATAL HOOKdENG WITH PALATAL HOOK",
  "dTURNED R WITH PALATAL HOOKdR WITH FISHHOOK AND PALATAL HOOKdTESH DIGRAPH WITH PALATAL HOOK",
  "dEZH WITH PALATAL HOOKdDEZH DIGRAPH WITH RETROFLEX HOOKdI WITH STROKE AND RETROFLEX HOOKdO WITH RETROFLEX HOOK",
  "dTESH DIGRAPH WITH RETROFLEX HOOKdC WITH RETROFLEX HOOKdS WITH CURL",
  "1E000 aCOMBINING GLAGOLITIC LETTER AZUdBUKYdVEDEdGLAGOLIdDOBROdYESTUdZHIVETE",
  "1E008 dZEMLJAdIZHEdINITIAL IZHEdIdDJERVIdKAKOdLJUDIJEdMYSLITEdNASHIdONUdPOKOJIdRITSIdSLOVOdTVRIDOdUKUdFRITUdHERU",
  "1E01B dSHTAdTSIdCHRIVIdSHAdYERUdYERIdYATI",
  "1E023 dYUdSMALL YUS",
  "1E026 dYOdIOTATED SMALL YUSdBIG YUSdIOTATED BIG YUSdFITA",
  "1E100 aNYIAKENG PUACHUE HMONG LETTER MAeTSAeNTAeTAeHAeNAeXAeNKAeCAeLAeSAeZAeNCAeNTSAeKAeDAeNYAeNRAeVAeNTXAeTXA",
  "eFAeRAeQAeYAeNQAePAeXYAeNPAeDLAeNPLAeHAHeMLAePLAeGAeRRAeAeAAeIeUeOeOOeEeEEeW",
  "1E130 dTONE-BdTONE-MdTONE-JdTONE-VdTONE-SdTONE-GdTONE-DdSIGN FOR PERSONfTHINGfLOCATIONfANIMALfINVERTEBRATEeXW XW",
  "dSYLLABLE LENGTHENER",
  "1E140 dDIGIT ZEROeONEeTWOeTHREEeFOUReFIVEeSIXeSEVENeEIGHTeNINE",
  "1E14E dLOGOGRAM NYAJdCIRCLED CA",
  "1E290 aTOTO LETTER PAcBAcTAcDAcKAcGAcMAcNAcNGAcSAcCHAcYAcWAcJAcHAcRAcLAcIcBREATHY IcIUcBREATHY IUcUcEcBREATHY E",
  "cEOcBREATHY EOcOcAEcBREATHY AEcAbSIGN RISING TONE",
  "1E2C0 aWANCHO LETTER AAcAcBAcCAcDAcGAcYAcPHAcLAcNAcPAcTAcTHAcFAcSAcSHAcJAcZAcWAcVAcKAcOcAUcRAcMAcKHAcHAcEcIcNGA",
  "cUcLLHAcTSAcTRAcONGcAANGcANGcINGcONcENcAANcNYAcUENcYIHbTONE TUPcTUPNIcKOIcKOINIbDIGIT ZEROcONEcTWOcTHREEcFOUR",
  "cFIVEcSIXcSEVENcEIGHTcNINE",
  "1E2FF bNGUN SIGN",
  "1E7E0 aETHIOPIC SYLLABLE HHYAcHHYUcHHYIcHHYAAcHHYEEcHHYEcHHYO",
  "1E7E8 cGURAGE HHWAcHHWIcHHWEEcHHWE",
  "1E7ED cGURAGE MWIdMWEE",
  "1E7F0 dQWIdQWEEdQWEdBWIdBWEEdKWIdKWEEdKWEdGWIdGWEEdGWEdFWIdFWEEdPWIdPWEE",
  "1E800 aMENDE KIKAKUI SYLLABLE M001 KIdM002 KAdM003 KUdM065 KEEdM095 KEdM076 KOOdM048 KOdM179 KUAdM004 WIdM005 WA",
  "dM006 WUdM126 WEEdM118 WEdM114 WOOdM045 WOdM194 WUIdM143 WEIdM061 WVIdM049 WVAdM139 WVEdM007 MINdM008 MAN",
  "dM009 MUNdM059 MENdM094 MONdM154 MUANdM189 MUENdM010 BIdM011 BAdM012 BUdM150 BEEdM097 BEdM103 BOOdM138 BOdM013 I",
  "dM014 AdM015 UdM163 EEdM100 EdM165 OOdM147 OdM137 EIdM131 INdM135 INdM195 ANdM178 ENdM019 SIdM020 SAdM021 SU",
  "dM162 SEEdM116 SEdM136 SOOdM079 SOdM196 SIAdM025 LIdM026 LAdM027 LUdM084 LEEdM073 LEdM054 LOOdM153 LO",
  "dM110 LONG LEdM016 DIdM017 DAdM018 DUdM089 DEEdM180 DOOdM181 DOdM022 TIdM023 TAdM024 TUdM091 TEEdM055 TE",
  "dM104 TOOdM069 TOdM028 JIdM029 JAdM030 JUdM157 JEEdM113 JEdM160 JOOdM063 JOdM175 LONG JOdM031 YIdM032 YAdM033 YU",
  "dM109 YEEdM080 YEdM141 YOOdM121 YOdM034 FIdM035 FAdM036 FUdM078 FEEdM075 FEdM133 FOOdM088 FOdM197 FUAdM101 FAN",
  "dM037 NINdM038 NANdM039 NUNdM117 NENdM169 NONdM176 HIdM041 HAdM186 HUdM040 HEEdM096 HEdM042 HOOdM140 HO",
  "dM083 HEEIdM128 HOOUdM053 HINdM130 HANdM087 HUNdM052 HENdM193 HONdM046 HUANdM090 NGGIdM043 NGGAdM082 NGGU",
  "dM115 NGGEEdM146 NGGEdM156 NGGOOdM120 NGGOdM159 NGGAAdM127 NGGUAdM086 LONG NGGEdM106 LONG NGGOOdM183 LONG NGGO",
  "dM155 GIdM111 GAdM168 GUdM190 GEEdM166 GUEIdM167 GUANdM184 NGENdM057 NGONdM177 NGUANdM068 PIdM099 PAdM050 PU",
  "dM081 PEEdM051 PEdM102 POOdM066 POdM145 MBIdM062 MBAdM122 MBUdM047 MBEEdM188 MBEEdM072 MBEdM172 MBOOdM174 MBO",
  "dM187 MBUUdM161 LONG MBEdM105 LONG MBOOdM142 LONG MBOdM132 KPIdM092 KPAdM074 KPUdM044 KPEEdM108 KPEdM112 KPOO",
  "dM158 KPOdM124 GBIdM056 GBAdM148 GBUdM093 GBEEdM107 GBEdM071 GBOOdM070 GBOdM171 RAdM123 NDIdM129 NDAdM125 NDU",
  "dM191 NDEEdM119 NDEdM067 NDOOdM064 NDOdM152 NJAdM192 NJUdM149 NJEEdM134 NJOOdM182 VIdM185 VAdM151 VUdM173 VEE",
  "dM085 VEdM144 VOOdM077 VOdM164 NYINdM058 NYANdM170 NYUNdM098 NYENdM060 NYON",
  "1E8C7 cDIGIT ONEdTWOdTHREEdFOURdFIVEdSIXdSEVENdEIGHTdNINEcCOMBINING NUMBER TEENSeTENSeHUNDREDSeTHOUSANDS",
  "eTEN THOUSANDSeHUNDRED THOUSANDSeMILLIONS",
  "1E900 aADLAM CAPITAL LETTER ALIFdDAALIdLAAMdMIIMdBAdSINNYIIYHEdPEdBHEdRAdEdFAdIdOdDHAdYHEdWAWdNUNdKAFdYAdUdJIIM",
  "dCHIdHAdQAAFdGAdNYAdTUdNHAdVAdKHAdGBEdZALdKPOdSHAbSMALL LETTER ALIFdDAALIdLAAMdMIIMdBAdSINNYIIYHEdPEdBHEdRAdEdFA",
  "dIdOdDHAdYHEdWAWdNUNdKAFdYAdUdJIIMdCHIdHAdQAAFdGAdNYAdTUdNHAdVAdKHAdGBEdZALdKPOdSHAbALIF LENGTHENER",
  "bVOWEL LENGTHENERbGEMINATION MARKbHAMZAbCONSONANT MODIFIERbGEMINATE CONSONANT MODIFIERbNUKTAbNASALIZATION MARK",
  "1E950 bDIGIT ZEROcONEcTWOcTHREEcFOURcFIVEcSIXcSEVENcEIGHTcNINE",
  "1E95E bINITIAL EXCLAMATION MARKcQUESTION MARK",
  "1EC71 aINDIC SIYAQ NUMBER ONEdTWOdTHREEdFOURdFIVEdSIXdSEVENdEIGHTdNINEdTENdTWENTYdTHIRTYdFORTYdFIFTYdSIXTY",
  "dSEVENTYdEIGHTYdNINETYdONE HUNDREDdTWO HUNDREDdTHREE HUNDREDdFOUR HUNDREDdFIVE HUNDREDdSIX HUNDREDdSEVEN HUNDRED",
  "dEIGHT HUNDREDdNINE HUNDREDdONE THOUSANDdTWO THOUSANDdTHREE THOUSANDdFOUR THOUSANDdFIVE THOUSANDdSIX THOUSAND",
  "dSEVEN THOUSANDdEIGHT THOUSANDdNINE THOUSANDdTEN THOUSANDdTWENTY THOUSANDdTHIRTY THOUSANDdFORTY THOUSAND",
  "dFIFTY THOUSANDdSIXTY THOUSANDdSEVENTY THOUSANDdEIGHTY THOUSANDdNINETY THOUSANDdLAKHdLAKHANcLAKH MARK",
  "cNUMBER KARORdKARORANdPREFIXED ONEeTWOeTHREEeFOUReFIVEeSIXeSEVENeEIGHTeNINEcPLACEHOLDERcFRACTION ONE QUARTER",
  "eHALFdTHREE QUARTERScRUPEE MARKcNUMBER ALTERNATE ONEeTWOeTEN THOUSANDcALTERNATE LAKH MARK",
  "1ED01 aOTTOMAN SIYAQ NUMBER ONEdTWOdTHREEdFOURdFIVEdSIXdSEVENdEIGHTdNINEdTENdTWENTYdTHIRTYdFORTYdFIFTYdSIXTY",
  "dSEVENTYdEIGHTYdNINETYdONE HUNDREDdTWO HUNDREDdTHREE HUNDREDdFOUR HUNDREDdFIVE HUNDREDdSIX HUNDREDdSEVEN HUNDRED",
  "dEIGHT HUNDREDdNINE HUNDREDdONE THOUSANDdTWO THOUSANDdTHREE THOUSANDdFOUR THOUSANDdFIVE THOUSANDdSIX THOUSAND",
  "dSEVEN THOUSANDdEIGHT THOUSANDdNINE THOUSANDdTEN THOUSANDdTWENTY THOUSANDdTHIRTY THOUSANDdFORTY THOUSAND",
  "dFIFTY THOUSANDdSIXTY THOUSANDdSEVENTY THOUSANDdEIGHTY THOUSANDdNINETY THOUSANDcMARRATANcALTERNATE NUMBER TWO",
  "eTHREEeFOUReFIVEeSIXeSEVENeEIGHTeNINEeTENeFOUR HUNDREDeSIX HUNDREDeTWO THOUSANDeTEN THOUSANDcFRACTION ONE HALF",
  "eSIXTH",
  "1EE00 aARABIC MATHEMATICAL ALEFcBEHcJEEMcDAL",
  "1EE05 cWAWcZAINcHAHcTAHcYEHcKAFcLAMcMEEMcNOONcSEENcAINcFEHcSADcQAFcREHcSHEENcTEHcTHEHcKHAHcTHALcDADcZAHcGHAIN",
  "cDOTLESS BEHdNOONdFEHdQAF",
  "1EE21 cINITIAL BEHdJEEM",
  "1EE24 dHEH",
  "1EE27 dHAH",
  "1EE29 dYEHdKAFdLAMdMEEMdNOONdSEENdAINdFEHdSADdQAF",
  "1EE34 dSHEENdTEHdTHEHdKHAH",
  "1EE39 dDAD",
  "1EE3B dGHAIN",
  "1EE42 cTAILED JEEM",
  "1EE47 dHAH",
  "1EE49 dYEH",
  "1EE4B dLAM",
  "1EE4D dNOONdSEENdAIN",
  "1EE51 dSADdQAF",
  "1EE54 dSHEEN",
  "1EE57 dKHAH",
  "1EE59 dDAD",
  "1EE5B dGHAIN",
  "1EE5D dDOTLESS NOON",
  "1EE5F eQAF",
  "1EE61 cSTRETCHED BEHdJEEM",
  "1EE64 dHEH",
  "1EE67 dHAHdTAHdYEHdKAF",
  "1EE6C dMEEMdNOONdSEENdAINdFEHdSADdQAF",
  "1EE74 dSHEENdTEHdTHEHdKHAH",
  "1EE79 dDADdZAHdGHAINdDOTLESS BEH",
  "1EE7E eFEH",
  "1EE80 cLOOPED ALEFdBEHdJEEMdDALdHEHdWAWdZAINdHAHdTAHdYEH",
  "1EE8B dLAMdMEEMdNOONdSEENdAINdFEHdSADdQAFdREHdSHEENdTEHdTHEHdKHAHdTHALdDADdZAHdGHAIN",
  "1EEA1 cDOUBLE-STRUCK BEHdJEEMdDAL",
  "1EEA5 dWAWdZAINdHAHdTAHdYEH",
  "1EEAB dLAMdMEEMdNOONdSEENdAINdFEHdSADdQAFdREHdSHEENdTEHdTHEHdKHAHdTHALdDADdZAHdGHAIN",
  "1EEF0 cOPERATOR MEEM WITH HAH WITH TATWEELdHAH WITH DAL",
  "1F000 aMAHJONG TILE EAST WINDcSOUTH WINDcWEST WINDcNORTH WINDcRED DRAGONcGREEN DRAGONcWHITE DRAGON",
  "cONE OF CHARACTERScTWO OF CHARACTERScTHREE OF CHARACTERScFOUR OF CHARACTERScFIVE OF CHARACTERScSIX OF CHARACTERS",
  "cSEVEN OF CHARACTERScEIGHT OF CHARACTERScNINE OF CHARACTERScONE OF BAMBOOScTWO OF BAMBOOScTHREE OF BAMBOOS",
  "cFOUR OF BAMBOOScFIVE OF BAMBOOScSIX OF BAMBOOScSEVEN OF BAMBOOScEIGHT OF BAMBOOScNINE OF BAMBOOScONE OF CIRCLES",
  "cTWO OF CIRCLEScTHREE OF CIRCLEScFOUR OF CIRCLEScFIVE OF CIRCLEScSIX OF CIRCLEScSEVEN OF CIRCLES",
  "cEIGHT OF CIRCLEScNINE OF CIRCLEScPLUMcORCHIDcBAMBOOcCHRYSANTHEMUMcSPRINGcSUMMERcAUTUMNcWINTERcJOKERcBACK",
  "1F030 aDOMINO TILE HORIZONTAL BACKcHORIZONTAL-00-00++++++cHORIZONTAL-01-00++++++cHORIZONTAL-02-00++++++",
  "cHORIZONTAL-03-00++++++cHORIZONTAL-04-00++++++cHORIZONTAL-05-00++++++cHORIZONTAL-06-00++++++cVERTICAL BACK",
  "cVERTICAL-00-00++++++cVERTICAL-01-00++++++cVERTICAL-02-00++++++cVERTICAL-03-00++++++cVERTICAL-04-00++++++",
  "cVERTICAL-05-00++++++cVERTICAL-06-00++++++",
  "1F0A0 aPLAYING CARD BACKcACE OF SPADEScTWO OF SPADEScTHREE OF SPADEScFOUR OF SPADEScFIVE OF SPADEScSIX OF SPADES",
  "cSEVEN OF SPADEScEIGHT OF SPADEScNINE OF SPADEScTEN OF SPADEScJACK OF SPADEScKNIGHT OF SPADEScQUEEN OF SPADES",
  "cKING OF SPADES",
  "1F0B1 cACE OF HEARTScTWO OF HEARTScTHREE OF HEARTScFOUR OF HEARTScFIVE OF HEARTScSIX OF HEARTScSEVEN OF HEARTS",
  "cEIGHT OF HEARTScNINE OF HEARTScTEN OF HEARTScJACK OF HEARTScKNIGHT OF HEARTScQUEEN OF HEARTScKING OF HEARTS",
  "cRED JOKER",
  "1F0C1 cACE OF DIAMONDScTWO OF DIAMONDScTHREE OF DIAMONDScFOUR OF DIAMONDScFIVE OF DIAMONDScSIX OF DIAMONDS",
  "cSEVEN OF DIAMONDScEIGHT OF DIAMONDScNINE OF DIAMONDScTEN OF DIAMONDScJACK OF DIAMONDScKNIGHT OF DIAMONDS",
  "cQUEEN OF DIAMONDScKING OF DIAMONDScBLACK JOKER",
  "1F0D1 cACE OF CLUBScTWO OF CLUBScTHREE OF CLUBScFOUR OF CLUBScFIVE OF CLUBScSIX OF CLUBScSEVEN OF CLUBS",
  "cEIGHT OF CLUBScNINE OF CLUBScTEN OF CLUBScJACK OF CLUBScKNIGHT OF CLUBScQUEEN OF CLUBScKING OF CLUBS",
  "cWHITE JOKERcFOOLcTRUMP-1++++++++++++++++++++",
  "1F100 aDIGIT ZERO FULL STOPcCOMMAbONE COMMAbTWO COMMAbTHREE COMMAbFOUR COMMAbFIVE COMMAbSIX COMMAbSEVEN COMMA",
  "bEIGHT COMMAbNINE COMMAaDINGBAT CIRCLED SANS-SERIF DIGIT ZERObNEGATIVE CIRCLED SANS-SERIF DIGIT ZERO",
  "aCIRCLED ZERO WITH SLASHbANTICLOCKWISE ARROWbDOLLAR SIGN WITH OVERLAID BACKSLASH",
  "aPARENTHESIZED LATIN CAPITAL LETTER AeBeCeDeEeFeGeHeIeJeKeLeMeNeOePeQeReSeTeUeVeWeXeYeZ",
  "aTORTOISE SHELL BRACKETED LATIN CAPITAL LETTER SaCIRCLED ITALIC LATIN CAPITAL LETTER CfRbCDbWZaCOPYLEFT SYMBOL",
  "aSQUARED LATIN CAPITAL LETTER AeBeCeDeEeFeGeHeIeJeKeLeMeNeOePeQeReSeTeUeVeWeXeYeZbHVbMVbSDbSSbPPVbWC",
  "aNEGATIVE CIRCLED LATIN CAPITAL LETTER AfBfCfDfEfFfGfHfIfJfKfLfMfNfOfPfQfRfSfTfUfVfWfXfYfZaRAISED MC SIGN",
  "bMD SIGNbMR SIGNaCIRCLED CCbC WITH OVERLAID BACKSLASHbHUMAN FIGUREaNEGATIVE SQUARED LATIN CAPITAL LETTER AfBfCfD",
  "fEfFfGfHfIfJfKfLfMfNfOfPfQfRfSfTfUfVfWfXfYfZaCROSSED NEGATIVE SQUARED LATIN CAPITAL LETTER PaNEGATIVE SQUARED IC",
  "cPAcSAcABcWCaSQUARE DJaSQUARED CLbCOOLbFREEbIDbNEWbNGbOKbSOSbUP WITH EXCLAMATION MARKbVSbTHREE DbSECOND SCREEN",
  "bTWO KbFOUR KbEIGHT KbFIVE POINT ONEbSEVEN POINT ONEbTWENTY-TWO POINT TWObSIXTY PbONE HUNDRED TWENTY P",
  "bLATIN SMALL LETTER DbHCbHDRbHI-RESbLOSSLESSbSHVbUHDbVODaMASK WORK SYMBOL",
  "1F1E6 aREGIONAL INDICATOR SYMBOL LETTER AeBeCeDeEeFeGeHeIeJeKeLeMeNeOePeQeReSeTeUeVeWeXeYeZaSQUARE HIRAGANA HOKA",
  "aSQUARED KATAKANA KOKOcSA",
  "1F210 bCJK UNIFIED IDEOGRAPH-624BdIDEOGRAPH-5B57dIDEOGRAPH-53CCbKATAKANA DEbCJK UNIFIED IDEOGRAPH-4E8C",
  "dIDEOGRAPH-591AdIDEOGRAPH-89E3dIDEOGRAPH-5929dIDEOGRAPH-4EA4dIDEOGRAPH-6620dIDEOGRAPH-7121dIDEOGRAPH-6599",
  "dIDEOGRAPH-524DdIDEOGRAPH-5F8CdIDEOGRAPH-518DdIDEOGRAPH-65B0dIDEOGRAPH-521DdIDEOGRAPH-7D42dIDEOGRAPH-751F",
  "dIDEOGRAPH-8CA9dIDEOGRAPH-58F0dIDEOGRAPH-5439dIDEOGRAPH-6F14dIDEOGRAPH-6295dIDEOGRAPH-6355dIDEOGRAPH-4E00",
  "dIDEOGRAPH-4E09dIDEOGRAPH-904AdIDEOGRAPH-5DE6dIDEOGRAPH-4E2DdIDEOGRAPH-53F3dIDEOGRAPH-6307dIDEOGRAPH-8D70",
  "dIDEOGRAPH-6253dIDEOGRAPH-7981dIDEOGRAPH-7A7AdIDEOGRAPH-5408dIDEOGRAPH-6E80dIDEOGRAPH-6709dIDEOGRAPH-6708",
  "dIDEOGRAPH-7533dIDEOGRAPH-5272dIDEOGRAPH-55B6dIDEOGRAPH-914D",
  "1F240 aTORTOISE SHELL BRACKETED CJK UNIFIED IDEOGRAPH-672CfIDEOGRAPH-4E09fIDEOGRAPH-4E8CfIDEOGRAPH-5B89",
  "fIDEOGRAPH-70B9fIDEOGRAPH-6253fIDEOGRAPH-76D7fIDEOGRAPH-52DDfIDEOGRAPH-6557",
  "1F250 aCIRCLED IDEOGRAPH ADVANTAGEcACCEPT",
  "1F260 aROUNDED SYMBOL FOR FUdLUdSHOUdXIdSHUANGXIdCAI",
  "1F300 aCYCLONEaFOGGYaCLOSED UMBRELLAaNIGHT WITH STARSaSUNRISE OVER MOUNTAINSaSUNRISEaCITYSCAPE AT DUSK",
  "aSUNSET OVER BUILDINGSaRAINBOWaBRIDGE AT NIGHTaWATER WAVEaVOLCANOaMILKY WAYaEARTH GLOBE EUROPE-AFRICAcAMERICAS",
  "cASIA-AUSTRALIAaGLOBE WITH MERIDIANSaNEW MOON SYMBOLaWAXING CRESCENT MOON SYMBOLaFIRST QUARTER MOON SYMBOL",
  "aWAXING GIBBOUS MOON SYMBOLaFULL MOON SYMBOLaWANING GIBBOUS MOON SYMBOLaLAST QUARTER MOON SYMBOL",
  "aWANING CRESCENT MOON SYMBOLaCRESCENT MOONaNEW MOON WITH FACEaFIRST QUARTER MOON WITH FACE",
  "aLAST QUARTER MOON WITH FACEaFULL MOON WITH FACEaSUN WITH FACEaGLOWING STARaSHOOTING STARaTHERMOMETER",
  "aBLACK DROPLETaWHITE SUNcWITH SMALL CLOUDcBEHIND CLOUDeWITH RAINaCLOUD WITH RAINcSNOWcLIGHTNINGcTORNADOaFOG",
  "aWIND BLOWING FACEaHOT DOGaTACOaBURRITOaCHESTNUTaSEEDLINGaEVERGREEN TREEaDECIDUOUS TREEaPALM TREEaCACTUS",
  "aHOT PEPPERaTULIPaCHERRY BLOSSOMaROSEaHIBISCUSaSUNFLOWERaBLOSSOMaEAR OF MAIZEcRICEaHERBaFOUR LEAF CLOVER",
  "aMAPLE LEAFaFALLEN LEAFaLEAF FLUTTERING IN WINDaMUSHROOMaTOMATOaAUBERGINEaGRAPESaMELONaWATERMELONaTANGERINE",
  "aLEMONaBANANAaPINEAPPLEaRED APPLEaGREEN APPLEaPEARaPEACHaCHERRIESaSTRAWBERRYaHAMBURGERaSLICE OF PIZZA",
  "aMEAT ON BONEaPOULTRY LEGaRICE CRACKERbBALLaCOOKED RICEaCURRY AND RICEaSTEAMING BOWLaSPAGHETTIaBREAD",
  "aFRENCH FRIESaROASTED SWEET POTATOaDANGOaODENaSUSHIaFRIED SHRIMPaFISH CAKE WITH SWIRL DESIGNaSOFT ICE CREAM",
  "aSHAVED ICEaICE CREAMaDOUGHNUTaCOOKIEaCHOCOLATE BARaCANDYaLOLLIPOPaCUSTARDaHONEY POTaSHORTCAKEaBENTO BOX",
  "aPOT OF FOODaCOOKINGaFORK AND KNIFEaTEACUP WITHOUT HANDLEaSAKE BOTTLE AND CUPaWINE GLASSaCOCKTAIL GLASS",
  "aTROPICAL DRINKaBEER MUGaCLINKING BEER MUGSaBABY BOTTLEaFORK AND KNIFE WITH PLATEaBOTTLE WITH POPPING CORK",
  "aPOPCORNaRIBBONaWRAPPED PRESENTaBIRTHDAY CAKEaJACK-O-LANTERNaCHRISTMAS TREEaFATHER CHRISTMASaFIREWORKS",
  "aFIREWORK SPARKLERaBALLOONaPARTY POPPERaCONFETTI BALLaTANABATA TREEaCROSSED FLAGSaPINE DECORATIONaJAPANESE DOLLS",
  "aCARP STREAMERaWIND CHIMEaMOON VIEWING CEREMONYaSCHOOL SATCHELaGRADUATION CAPaHEART WITH TIP ON THE LEFT",
  "aBOUQUET OF FLOWERSaMILITARY MEDALaREMINDER RIBBONaMUSICAL KEYBOARD WITH JACKSaSTUDIO MICROPHONEaLEVEL SLIDER",
  "aCONTROL KNOBSaBEAMED ASCENDING MUSICAL NOTESbDESCENDING MUSICAL NOTESaFILM FRAMESaADMISSION TICKETS",
  "aCAROUSEL HORSEaFERRIS WHEELaROLLER COASTERaFISHING POLE AND FISHaMICROPHONEaMOVIE CAMERAaCINEMAaHEADPHONE",
  "aARTIST PALETTEaTOP HATaCIRCUS TENTaTICKETaCLAPPER BOARDaPERFORMING ARTSaVIDEO GAMEaDIRECT HITaSLOT MACHINE",
  "aBILLIARDSaGAME DIEaBOWLINGaFLOWER PLAYING CARDSaMUSICAL NOTEaMULTIPLE MUSICAL NOTESaSAXOPHONEaGUITAR",
  "aMUSICAL KEYBOARDaTRUMPETaVIOLINaMUSICAL SCOREaRUNNING SHIRT WITH SASHaTENNIS RACQUET AND BALLaSKI AND SKI BOOT",
  "aBASKETBALL AND HOOPaCHEQUERED FLAGaSNOWBOARDERaRUNNERaSURFERaSPORTS MEDALaTROPHYaHORSE RACINGaAMERICAN FOOTBALL",
  "aRUGBY FOOTBALLaSWIMMERaWEIGHT LIFTERaGOLFERaRACING MOTORCYCLEbCARaCRICKET BAT AND BALLaVOLLEYBALL",
  "aFIELD HOCKEY STICK AND BALLaICE HOCKEY STICK AND PUCKaTABLE TENNIS PADDLE AND BALLaSNOW CAPPED MOUNTAINaCAMPING",
  "aBEACH WITH UMBRELLAaBUILDING CONSTRUCTIONaHOUSE BUILDINGSaCITYSCAPEaDERELICT HOUSE BUILDINGaCLASSICAL BUILDING",
  "aDESERTbISLANDaNATIONAL PARKaSTADIUMaHOUSE BUILDINGbWITH GARDENaOFFICE BUILDINGaJAPANESE POST OFFICE",
  "aEUROPEAN POST OFFICEaHOSPITALaBANKaAUTOMATED TELLER MACHINEaHOTELaLOVE HOTELaCONVENIENCE STOREaSCHOOL",
  "aDEPARTMENT STOREaFACTORYaIZAKAYA LANTERNaJAPANESE CASTLEaEUROPEAN CASTLEaWHITE PENNANTaBLACK PENNANT",
  "aWAVING WHITE FLAGbBLACK FLAGaROSETTEaBLACK ROSETTEaLABELaBADMINTON RACQUET AND SHUTTLECOCKaBOW AND ARROW",
  "aAMPHORAaEMOJI MODIFIER FITZPATRICK TYPE-1-2dTYPE-3+++aRATaMOUSEaOXaWATER BUFFALOaCOWaTIGERaLEOPARDaRABBITaCAT",
  "aDRAGONaCROCODILEaWHALEaSNAILaSNAKEaHORSEaRAMaGOATaSHEEPaMONKEYaROOSTERaCHICKENaDOGaPIGaBOARaELEPHANTaOCTOPUS",
  "aSPIRAL SHELLaBUGaANTaHONEYBEEaLADY BEETLEaFISHaTROPICAL FISHaBLOWFISHaTURTLEaHATCHING CHICKaBABY CHICK",
  "aFRONT-FACING BABY CHICKaBIRDaPENGUINaKOALAaPOODLEaDROMEDARY CAMELaBACTRIAN CAMELaDOLPHINaMOUSE FACEaCOW FACE",
  "aTIGER FACEaRABBIT FACEaCAT FACEaDRAGON FACEaSPOUTING WHALEaHORSE FACEaMONKEY FACEaDOG FACEaPIG FACEaFROG FACE",
  "aHAMSTER FACEaWOLF FACEaBEAR FACEaPANDA FACEaPIG NOSEaPAW PRINTSaCHIPMUNKaEYESaEYEaEARaNOSEaMOUTHaTONGUE",
  "aWHITE UP POINTING BACKHAND INDEXbDOWN POINTING BACKHAND INDEXbLEFT POINTING BACKHAND INDEX",
  "bRIGHT POINTING BACKHAND INDEXaFISTED HAND SIGNaWAVING HAND SIGNaOK HAND SIGNaTHUMBS UP SIGNbDOWN SIGN",
  "aCLAPPING HANDS SIGNaOPEN HANDS SIGNaCROWNaWOMANS HATaEYEGLASSESaNECKTIEaT-SHIRTaJEANSaDRESSaKIMONOaBIKINI",
  "aWOMANS CLOTHESaPURSEaHANDBAGaPOUCHaMANS SHOEaATHLETIC SHOEaHIGH-HEELED SHOEaWOMANS SANDALbBOOTSaFOOTPRINTS",
  "aBUST IN SILHOUETTEaBUSTS IN SILHOUETTEaBOYaGIRLaMANaWOMANaFAMILYaMAN AND WOMAN HOLDING HANDS",
  "aTWO MEN HOLDING HANDSbWOMEN HOLDING HANDSaPOLICE OFFICERaWOMAN WITH BUNNY EARSaBRIDE WITH VEIL",
  "aPERSON WITH BLOND HAIRaMAN WITH GUA PI MAOcTURBANaOLDER MANbWOMANaBABYaCONSTRUCTION WORKERaPRINCESS",
  "aJAPANESE OGREbGOBLINaGHOSTaBABY ANGELaEXTRATERRESTRIAL ALIENaALIEN MONSTERaIMPaSKULLaINFORMATION DESK PERSON",
  "aGUARDSMANaDANCERaLIPSTICKaNAIL POLISHaFACE MASSAGEaHAIRCUTaBARBER POLEaSYRINGEaPILLaKISS MARKaLOVE LETTERaRING",
  "aGEM STONEaKISSaBOUQUETaCOUPLE WITH HEARTaWEDDINGaBEATING HEARTaBROKEN HEARTaTWO HEARTSaSPARKLING HEART",
  "aGROWING HEARTaHEART WITH ARROWaBLUE HEARTaGREEN HEARTaYELLOW HEARTaPURPLE HEARTaHEART WITH RIBBON",
  "aREVOLVING HEARTSaHEART DECORATIONaDIAMOND SHAPE WITH A DOT INSIDEaELECTRIC LIGHT BULBaANGER SYMBOLaBOMB",
  "aSLEEPING SYMBOLaCOLLISION SYMBOLaSPLASHING SWEAT SYMBOLaDROPLETaDASH SYMBOLaPILE OF POOaFLEXED BICEPS",
  "aDIZZY SYMBOLaSPEECH BALLOONaTHOUGHT BALLOONaWHITE FLOWERaHUNDRED POINTS SYMBOLaMONEY BAGaCURRENCY EXCHANGE",
  "aHEAVY DOLLAR SIGNaCREDIT CARDaBANKNOTE WITH YEN SIGNcDOLLAR SIGNcEURO SIGNcPOUND SIGNaMONEY WITH WINGS",
  "aCHART WITH UPWARDS TREND AND YEN SIGNaSEATaPERSONAL COMPUTERaBRIEFCASEaMINIDISCaFLOPPY DISKaOPTICAL DISCaDVD",
  "aFILE FOLDERaOPEN FILE FOLDERaPAGE WITH CURLbFACING UPaCALENDARaTEAR-OFF CALENDARaCARD INDEX",
  "aCHART WITH UPWARDS TRENDcDOWNWARDS TRENDaBAR CHARTaCLIPBOARDaPUSHPINaROUND PUSHPINaPAPERCLIPaSTRAIGHT RULER",
  "aTRIANGULAR RULERaBOOKMARK TABSaLEDGERaNOTEBOOKbWITH DECORATIVE COVERaCLOSED BOOKaOPEN BOOKaGREEN BOOKaBLUE BOOK",
  "aORANGE BOOKaBOOKSaNAME BADGEaSCROLLaMEMOaTELEPHONE RECEIVERaPAGERaFAX MACHINEaSATELLITE ANTENNA",
  "aPUBLIC ADDRESS LOUDSPEAKERaCHEERING MEGAPHONEaOUTBOX TRAYaINBOX TRAYaPACKAGEaE-MAIL SYMBOLaINCOMING ENVELOPE",
  "aENVELOPE WITH DOWNWARDS ARROW ABOVEaCLOSED MAILBOX WITH LOWERED FLAGdRAISED FLAGaOPEN MAILBOX WITH RAISED FLAG",
  "dLOWERED FLAGaPOSTBOXaPOSTAL HORNaNEWSPAPERaMOBILE PHONEcWITH RIGHTWARDS ARROW AT LEFTaVIBRATION MODE",
  "aMOBILE PHONE OFFaNO MOBILE PHONESaANTENNA WITH BARSaCAMERAbWITH FLASHaVIDEO CAMERAaTELEVISIONaRADIO",
  "aVIDEOCASSETTEaFILM PROJECTORaPORTABLE STEREOaPRAYER BEADSaTWISTED RIGHTWARDS ARROWS",
  "aCLOCKWISE RIGHTWARDS AND LEFTWARDS OPEN CIRCLE ARROWShWITH CIRCLED ONE OVERLAY",
  "bDOWNWARDS AND UPWARDS OPEN CIRCLE ARROWSaANTICLOCKWISE DOWNWARDS AND UPWARDS OPEN CIRCLE ARROWS",
  "aLOW BRIGHTNESS SYMBOLaHIGH BRIGHTNESS SYMBOLaSPEAKER WITH CANCELLATION STROKEaSPEAKERbWITH ONE SOUND WAVE",
  "cTHREE SOUND WAVESaBATTERYaELECTRIC PLUGaLEFT-POINTING MAGNIFYING GLASSaRIGHT-POINTING MAGNIFYING GLASS",
  "aLOCK WITH INK PENaCLOSED LOCK WITH KEYaKEYaLOCKaOPEN LOCKaBELLbWITH CANCELLATION STROKEaBOOKMARKaLINK SYMBOL",
  "aRADIO BUTTONaBACK WITH LEFTWARDS ARROW ABOVEaEND WITH LEFTWARDS ARROW ABOVE",
  "aON WITH EXCLAMATION MARK WITH LEFT RIGHT ARROW ABOVEaSOON WITH RIGHTWARDS ARROW ABOVE",
  "aTOP WITH UPWARDS ARROW ABOVEaNO ONE UNDER EIGHTEEN SYMBOLaKEYCAP TENaINPUT SYMBOL FOR LATIN CAPITAL LETTERS~",
  "dNUMBERSdSYMBOLSdLATIN LETTERSaFIREaELECTRIC TORCHaWRENCHaHAMMERaNUT AND BOLTaHOCHOaPISTOLaMICROSCOPEaTELESCOPE",
  "aCRYSTAL BALLaSIX POINTED STAR WITH MIDDLE DOTaJAPANESE SYMBOL FOR BEGINNERaTRIDENT EMBLEMaBLACK SQUARE BUTTON",
  "aWHITE SQUARE BUTTONaLARGE RED CIRCLEbBLUE CIRCLEbORANGE DIAMONDbBLUE DIAMONDaSMALL ORANGE DIAMONDbBLUE DIAMOND",
  "aUP-POINTING RED TRIANGLEaDOWN-POINTING RED TRIANGLEaUP-POINTING SMALL RED TRIANGLE",
  "aDOWN-POINTING SMALL RED TRIANGLEaLOWER RIGHT SHADOWED WHITE CIRCLEaUPPER RIGHT SHADOWED WHITE CIRCLE",
  "aCIRCLED CROSS POMMEEaCROSS POMMEE WITH HALF-CIRCLE BELOWbPOMMEEaNOTCHED LEFT SEMICIRCLE WITH THREE DOTS",
  "bRIGHT SEMICIRCLE WITH THREE DOTSaSYMBOL FOR MARKS CHAPTERaWHITE LATIN CROSSaHEAVY LATIN CROSSaCELTIC CROSS",
  "aOM SYMBOLaDOVE OF PEACEaKAABAaMOSQUEaSYNAGOGUEaMENORAH WITH NINE BRANCHESaBOWL OF HYGIEIAaCLOCK FACE ONE OCLOCK",
  "cTWO OCLOCKcTHREE OCLOCKcFOUR OCLOCKcFIVE OCLOCKcSIX OCLOCKcSEVEN OCLOCKcEIGHT OCLOCKcNINE OCLOCKcTEN OCLOCK",
  "cELEVEN OCLOCKcTWELVE OCLOCKcONE-THIRTYcTWO-THIRTYcTHREE-THIRTYcFOUR-THIRTYcFIVE-THIRTYcSIX-THIRTYcSEVEN-THIRTY",
  "cEIGHT-THIRTYcNINE-THIRTYcTEN-THIRTYcELEVEN-THIRTYcTWELVE-THIRTYaRIGHT SPEAKERcWITH ONE SOUND WAVE",
  "dTHREE SOUND WAVESaBULLHORNbWITH SOUND WAVESaRINGING BELLaBOOKaCANDLEaMANTELPIECE CLOCK",
  "aBLACK SKULL AND CROSSBONESaNO PIRACYaHOLEaMAN IN BUSINESS SUIT LEVITATINGaSLEUTH OR SPYaDARK SUNGLASSESaSPIDER",
  "bWEBaJOYSTICKaMAN DANCINGaLEFT HAND TELEPHONE RECEIVERaTELEPHONE RECEIVER WITH PAGE",
  "aRIGHT HAND TELEPHONE RECEIVERaWHITE TOUCHTONE TELEPHONEaBLACK TOUCHTONE TELEPHONEaTELEPHONE ON TOP OF MODEM",
  "aCLAMSHELL MOBILE PHONEaBACK OF ENVELOPEaSTAMPED ENVELOPEaENVELOPE WITH LIGHTNINGaFLYING ENVELOPE",
  "aPEN OVER STAMPED ENVELOPEaLINKED PAPERCLIPSaBLACK PUSHPINaLOWER LEFT PENCILcBALLPOINT PENcFOUNTAIN PEN",
  "cPAINTBRUSHcCRAYONaLEFT WRITING HANDaTURNED OK HAND SIGNaRAISED HAND WITH FINGERS SPLAYED",
  "aREVERSED RAISED HAND WITH FINGERS SPLAYEDbTHUMBS UP SIGNcDOWN SIGNbVICTORY HAND",
  "bHAND WITH MIDDLE FINGER EXTENDEDaRAISED HAND WITH PART BETWEEN MIDDLE AND RING FINGERS",
  "aWHITE DOWN POINTING LEFT HAND INDEXaSIDEWAYS WHITE LEFT POINTING INDEXcRIGHT POINTING INDEX",
  "bBLACK LEFT POINTING INDEXcRIGHT POINTING INDEXaBLACK LEFT POINTING BACKHAND INDEXbRIGHT POINTING BACKHAND INDEX",
  "aSIDEWAYS WHITE UP POINTING INDEXcDOWN POINTING INDEXbBLACK UP POINTING INDEXcDOWN POINTING INDEX",
  "aBLACK UP POINTING BACKHAND INDEXbDOWN POINTING BACKHAND INDEXbHEARTaDESKTOP COMPUTERaKEYBOARD AND MOUSE",
  "aTHREE NETWORKED COMPUTERSaPRINTERaPOCKET CALCULATORaBLACK HARD SHELL FLOPPY DISKaWHITE HARD SHELL FLOPPY DISK",
  "aSOFT SHELL FLOPPY DISKaTAPE CARTRIDGEaWIRED KEYBOARDaONE BUTTON MOUSEaTWO BUTTON MOUSEaTHREE BUTTON MOUSE",
  "aTRACKBALLaOLD PERSONAL COMPUTERaHARD DISKaSCREENaPRINTER ICONaFAX ICONaOPTICAL DISC ICONaDOCUMENT WITH TEXT",
  "dAND PICTUREcPICTUREaFRAME WITH PICTUREcTILEScAN XaBLACK FOLDERaFOLDERaOPEN FOLDERaCARD INDEX DIVIDERSbFILE BOX",
  "aFILE CABINETaEMPTY NOTEcPAGEcPADaNOTEbPAGEbPADaEMPTY DOCUMENTbPAGEbPAGESaDOCUMENTaPAGEaPAGESaWASTEBASKET",
  "aSPIRAL NOTE PADbCALENDAR PADaDESKTOP WINDOWaMINIMIZEaMAXIMIZEaOVERLAP",
  "aCLOCKWISE RIGHT AND LEFT SEMICIRCLE ARROWSaCANCELLATION XaINCREASE FONT SIZE SYMBOLaDECREASE FONT SIZE SYMBOL",
  "aCOMPRESSIONaOLD KEYaROLLED-UP NEWSPAPERaPAGE WITH CIRCLED TEXTaSTOCK CHARTaDAGGER KNIFEaLIPS",
  "aSPEAKING HEAD IN SILHOUETTEaTHREE RAYS ABOVEcBELOWcLEFTcRIGHTaLEFT SPEECH BUBBLEaRIGHT SPEECH BUBBLE",
  "aTWO SPEECH BUBBLESaTHREE SPEECH BUBBLESaLEFT THOUGHT BUBBLEaRIGHT THOUGHT BUBBLEaLEFT ANGER BUBBLE",
  "aRIGHT ANGER BUBBLEaMOOD BUBBLEaLIGHTNING MOOD BUBBLEbMOODaBALLOT BOX WITH BALLOTbSCRIPT XbBOX WITH SCRIPT X",
  "bBOLD SCRIPT XbBOX WITH BOLD SCRIPT XaLIGHT CHECK MARKaBALLOT BOX WITH BOLD CHECKaWORLD MAPaMOUNT FUJI",
  "aTOKYO TOWERaSTATUE OF LIBERTYaSILHOUETTE OF JAPANaMOYAIaGRINNING FACEcWITH SMILING EYESaFACE WITH TEARS OF JOY",
  "aSMILING FACE WITH OPEN MOUTHfAND SMILING EYESgCOLD SWEATgTIGHTLY-CLOSED EYESdHALOdHORNSaWINKING FACE",
  "aSMILING FACE WITH SMILING EYESaFACE SAVOURING DELICIOUS FOODaRELIEVED FACEaSMILING FACE WITH HEART-SHAPED EYES",
  "dSUNGLASSESaSMIRKING FACEaNEUTRAL FACEaEXPRESSIONLESS FACEaUNAMUSED FACEaFACE WITH COLD SWEATaPENSIVE FACE",
  "aCONFUSED FACEaCONFOUNDED FACEaKISSING FACEaFACE THROWING A KISSaKISSING FACE WITH SMILING EYESdCLOSED EYES",
  "aFACE WITH STUCK-OUT TONGUEeAND WINKING EYEfTIGHTLY-CLOSED EYESaDISAPPOINTED FACEaWORRIED FACEaANGRY FACE",
  "aPOUTING FACEaCRYING FACEaPERSEVERING FACEaFACE WITH LOOK OF TRIUMPHaDISAPPOINTED BUT RELIEVED FACE",
  "aFROWNING FACE WITH OPEN MOUTHaANGUISHED FACEaFEARFUL FACEaWEARY FACEaSLEEPY FACEaTIRED FACEaGRIMACING FACE",
  "aLOUDLY CRYING FACEaFACE WITH OPEN MOUTHaHUSHED FACEaFACE WITH OPEN MOUTH AND COLD SWEATbSCREAMING IN FEAR",
  "aASTONISHED FACEaFLUSHED FACEaSLEEPING FACEaDIZZY FACEaFACE WITHOUT MOUTHbWITH MEDICAL MASK",
  "aGRINNING CAT FACE WITH SMILING EYESaCAT FACE WITH TEARS OF JOYaSMILING CAT FACE WITH OPEN MOUTH",
  "eHEART-SHAPED EYESaCAT FACE WITH WRY SMILEaKISSING CAT FACE WITH CLOSED EYESaPOUTING CAT FACEaCRYING CAT FACE",
  "aWEARY CAT FACEaSLIGHTLY FROWNING FACEbSMILING FACEaUPSIDE-DOWN FACEaFACE WITH ROLLING EYEScNO GOOD GESTURE",
  "cOK GESTUREaPERSON BOWING DEEPLYaSEE-NO-EVIL MONKEYaHEAR-NO-EVIL MONKEYaSPEAK-NO-EVIL MONKEY",
  "aHAPPY PERSON RAISING ONE HANDaPERSON RAISING BOTH HANDS IN CELEBRATIONbFROWNINGbWITH POUTING FACEcFOLDED HANDS",
  "aNORTH WEST POINTING LEAFaSOUTH WEST POINTING LEAFaNORTH EAST POINTING LEAFaSOUTH EAST POINTING LEAF",
  "aTURNED NORTH WEST POINTING LEAFbSOUTH WEST POINTING LEAFbNORTH EAST POINTING LEAFbSOUTH EAST POINTING LEAF",
  "aNORTH WEST POINTING VINE LEAFaSOUTH WEST POINTING VINE LEAFaNORTH EAST POINTING VINE LEAF",
  "aSOUTH EAST POINTING VINE LEAFaHEAVY NORTH WEST POINTING VINE LEAFbSOUTH WEST POINTING VINE LEAF",
  "bNORTH EAST POINTING VINE LEAFbSOUTH EAST POINTING VINE LEAFaNORTH WEST POINTING BUDaSOUTH WEST POINTING BUD",
  "aNORTH EAST POINTING BUDaSOUTH EAST POINTING BUDaHEAVY NORTH WEST POINTING BUDbSOUTH WEST POINTING BUD",
  "bNORTH EAST POINTING BUDbSOUTH EAST POINTING BUDaHOLLOW QUILT SQUARE ORNAMENTeIN BLACK SQUARE",
  "aSOLID QUILT SQUARE ORNAMENTeIN BLACK SQUAREaLEFTWARDS ROCKETaUPWARDS ROCKETaRIGHTWARDS ROCKETaDOWNWARDS ROCKET",
  "aSCRIPT LIGATURE ET ORNAMENTaHEAVY SCRIPT LIGATURE ET ORNAMENTaLIGATURE OPEN ET ORNAMENT",
  "aHEAVY LIGATURE OPEN ET ORNAMENTbAMPERSAND ORNAMENTaSWASH AMPERSAND ORNAMENT",
  "aSANS-SERIF HEAVY DOUBLE TURNED COMMA QUOTATION MARK ORNAMENTdCOMMA QUOTATION MARK ORNAMENT",
  "cLOW DOUBLE COMMA QUOTATION MARK ORNAMENTaHEAVY INTERROBANG ORNAMENTaSANS-SERIF INTERROBANG ORNAMENT",
  "aHEAVY SANS-SERIF INTERROBANG ORNAMENTaVERY HEAVY SOLIDUScREVERSE SOLIDUSaCHECKER BOARDaREVERSE CHECKER BOARD",
  "aROCKETaHELICOPTERaSTEAM LOCOMOTIVEaRAILWAY CARaHIGH-SPEED TRAINcWITH BULLET NOSEaTRAINaMETROaLIGHT RAILaSTATION",
  "aTRAMbCARaBUSaONCOMING BUSaTROLLEYBUSaBUS STOPaMINIBUSaAMBULANCEaFIRE ENGINEaPOLICE CARaONCOMING POLICE CARaTAXI",
  "aONCOMING TAXIaAUTOMOBILEaONCOMING AUTOMOBILEaRECREATIONAL VEHICLEaDELIVERY TRUCKaARTICULATED LORRYaTRACTOR",
  "aMONORAILaMOUNTAIN RAILWAYaSUSPENSION RAILWAYaMOUNTAIN CABLEWAYaAERIAL TRAMWAYaSHIPaROWBOATaSPEEDBOAT",
  "aHORIZONTAL TRAFFIC LIGHTaVERTICAL TRAFFIC LIGHTaCONSTRUCTION SIGNaPOLICE CARS REVOLVING LIGHT",
  "aTRIANGULAR FLAG ON POSTaDOORaNO ENTRY SIGNaSMOKING SYMBOLaNO SMOKING SYMBOLaPUT LITTER IN ITS PLACE SYMBOL",
  "aDO NOT LITTER SYMBOLaPOTABLE WATER SYMBOLaNON-POTABLE WATER SYMBOLaBICYCLEaNO BICYCLESaBICYCLIST",
  "aMOUNTAIN BICYCLISTaPEDESTRIANaNO PEDESTRIANSaCHILDREN CROSSINGaMENS SYMBOLaWOMENS SYMBOLaRESTROOMaBABY SYMBOL",
  "aTOILETaWATER CLOSETaSHOWERaBATHaBATHTUBaPASSPORT CONTROLaCUSTOMSaBAGGAGE CLAIMaLEFT LUGGAGE",
  "aTRIANGLE WITH ROUNDED CORNERSaPROHIBITED SIGNaCIRCLED INFORMATION SOURCEaBOYS SYMBOLaGIRLS SYMBOL",
  "aCOUCH AND LAMPaSLEEPING ACCOMMODATIONaSHOPPING BAGSaBELLHOP BELLaBEDaPLACE OF WORSHIPaOCTAGONAL SIGN",
  "aSHOPPING TROLLEYaSTUPAaPAGODAaHINDU TEMPLEaHUTaELEVATOR",
  "1F6DD aPLAYGROUND SLIDEaWHEELaRING BUOYaHAMMER AND WRENCHaSHIELDaOIL DRUMaMOTORWAYaRAILWAY TRACKaMOTOR BOAT",
  "aUP-POINTING MILITARY AIRPLANEbAIRPLANEbSMALL AIRPLANEaSMALL AIRPLANEaNORTHEAST-POINTING AIRPLANE",
  "aAIRPLANE DEPARTUREbARRIVING",
  "1F6F0 aSATELLITEaONCOMING FIRE ENGINEaDIESEL LOCOMOTIVEaPASSENGER SHIPaSCOOTERaMOTOR SCOOTERaCANOEaSLED",
  "aFLYING SAUCERaSKATEBOARDaAUTO RICKSHAWaPICKUP TRUCKaROLLER SKATE",
  "1F700 aALCHEMICAL SYMBOL FOR QUINTESSENCEdAIRdFIREdEARTHdWATERdAQUAFORTISdAQUA REGIAeREGIA-2eVITAEeVITAE-2",
  "dVINEGARdVINEGAR-2+dSULFURdPHILOSOPHERS SULFURdBLACK SULFURdMERCURY SUBLIMATEeSUBLIMATE-2+dCINNABARdSALTdNITRE",
  "dVITRIOLdVITRIOL-2dROCK SALTeSALT-2dGOLDdSILVERdIRON OREeORE-2dCROCUS OF IRONdREGULUS OF IRONdCOPPER ORE",
  "dIRON-COPPER OREdSUBLIMATE OF COPPERdCROCUS OF COPPERfCOPPER-2dCOPPER ANTIMONIATEdSALT OF COPPER ANTIMONIATE",
  "dSUBLIMATE OF SALT OF COPPERdVERDIGRISdTIN OREdLEAD OREdANTIMONY OREdSUBLIMATE OF ANTIMONYdSALT OF ANTIMONY",
  "dSUBLIMATE OF SALT OF ANTIMONYdVINEGAR OF ANTIMONYdREGULUS OF ANTIMONYfANTIMONY-2dREGULUSdREGULUS-2++dALKALI",
  "dALKALI-2dMARCASITEdSAL-AMMONIACdARSENICdREALGARdREALGAR-2dAURIPIGMENTdBISMUTH OREdTARTARdTARTAR-2dQUICK LIME",
  "dBORAXdBORAX-2+dALUMdOILdSPIRITdTINCTUREdGUMdWAXdPOWDERdCALXdTUTTYdCAPUT MORTUUMdSCEPTER OF JOVEdCADUCEUS",
  "dTRIDENTdSTARRED TRIDENTdLODESTONEdSOAPdURINEdHORSE DUNGdASHESdPOT ASHESdBRICKdPOWDERED BRICKdAMALGAM",
  "dSTRATUM SUPER STRATUMfSTRATUM-2dSUBLIMATIONdPRECIPITATEdDISTILLdDISSOLVEdDISSOLVE-2dPURIFYdPUTREFACTION",
  "dCRUCIBLEdCRUCIBLE-2+++dALEMBICdBATH OF MARYfVAPOURSdRETORTdHOURdNIGHTdDAY-NIGHTdMONTHdHALF DRAMeOUNCE",
  "1F780 aBLACK LEFT-POINTING ISOSCELES RIGHT TRIANGLEbUP-POINTING ISOSCELES RIGHT TRIANGLE",
  "bRIGHT-POINTING ISOSCELES RIGHT TRIANGLEbDOWN-POINTING ISOSCELES RIGHT TRIANGLEbSLIGHTLY SMALL CIRCLE",
  "aMEDIUM BOLD WHITE CIRCLEaBOLD WHITE CIRCLEaHEAVY WHITE CIRCLEaVERY HEAVY WHITE CIRCLE",
  "aEXTREMELY HEAVY WHITE CIRCLEaWHITE CIRCLE CONTAINING BLACK SMALL CIRCLEaROUND TARGETaBLACK TINY SQUARE",
  "bSLIGHTLY SMALL SQUAREaLIGHT WHITE SQUAREaMEDIUM WHITE SQUAREaBOLD WHITE SQUAREaHEAVY WHITE SQUARE",
  "aVERY HEAVY WHITE SQUAREaEXTREMELY HEAVY WHITE SQUAREaWHITE SQUARE CONTAINING BLACK VERY SMALL SQUARE",
  "eMEDIUM SQUAREaSQUARE TARGETaBLACK TINY DIAMONDbVERY SMALL DIAMONDbMEDIUM SMALL DIAMOND",
  "aWHITE DIAMOND CONTAINING BLACK VERY SMALL DIAMONDeMEDIUM DIAMONDaDIAMOND TARGETaBLACK TINY LOZENGE",
  "bVERY SMALL LOZENGEbMEDIUM SMALL LOZENGEaWHITE LOZENGE CONTAINING BLACK SMALL LOZENGEaTHIN GREEK CROSS",
  "aLIGHT GREEK CROSSaMEDIUM GREEK CROSSaBOLD GREEK CROSSaVERY BOLD GREEK CROSSbHEAVY GREEK CROSS",
  "aEXTREMELY HEAVY GREEK CROSSaTHIN SALTIREaLIGHT SALTIREaMEDIUM SALTIREaBOLD SALTIREaHEAVY SALTIRE",
  "aVERY HEAVY SALTIREaEXTREMELY HEAVY SALTIREaLIGHT FIVE SPOKED ASTERISKaMEDIUM FIVE SPOKED ASTERISK",
  "aBOLD FIVE SPOKED ASTERISKaHEAVY FIVE SPOKED ASTERISKaVERY HEAVY FIVE SPOKED ASTERISK",
  "aEXTREMELY HEAVY FIVE SPOKED ASTERISKaLIGHT SIX SPOKED ASTERISKaMEDIUM SIX SPOKED ASTERISK",
  "aBOLD SIX SPOKED ASTERISKaHEAVY SIX SPOKED ASTERISKaVERY HEAVY SIX SPOKED ASTERISK",
  "aEXTREMELY HEAVY SIX SPOKED ASTERISKaLIGHT EIGHT SPOKED ASTERISKaMEDIUM EIGHT SPOKED ASTERISK",
  "aBOLD EIGHT SPOKED ASTERISKaHEAVY EIGHT SPOKED ASTERISKaVERY HEAVY EIGHT SPOKED ASTERISK",
  "aLIGHT THREE POINTED BLACK STARaMEDIUM THREE POINTED BLACK STARaTHREE POINTED BLACK STAR",
  "aMEDIUM THREE POINTED PINWHEEL STARaLIGHT FOUR POINTED BLACK STARaMEDIUM FOUR POINTED BLACK STAR",
  "aFOUR POINTED BLACK STARaMEDIUM FOUR POINTED PINWHEEL STARaREVERSE LIGHT FOUR POINTED PINWHEEL STAR",
  "aLIGHT FIVE POINTED BLACK STARaHEAVY FIVE POINTED BLACK STARaMEDIUM SIX POINTED BLACK STAR",
  "aHEAVY SIX POINTED BLACK STARaSIX POINTED PINWHEEL STARaMEDIUM EIGHT POINTED BLACK STAR",
  "aHEAVY EIGHT POINTED BLACK STARaVERY HEAVY EIGHT POINTED BLACK STARaHEAVY EIGHT POINTED PINWHEEL STAR",
  "aLIGHT TWELVE POINTED BLACK STARaHEAVY TWELVE POINTED BLACK STARdPINWHEEL STARaCIRCLED TRIANGLE",
  "aNEGATIVE CIRCLED TRIANGLEaCIRCLED SQUAREaNEGATIVE CIRCLED SQUARE",
  "1F7E0 aLARGE ORANGE CIRCLEbYELLOW CIRCLEbGREEN CIRCLEbPURPLE CIRCLEbBROWN CIRCLEbRED SQUAREbBLUE SQUARE",
  "bORANGE SQUAREbYELLOW SQUAREbGREEN SQUAREbPURPLE SQUAREbBROWN SQUARE",
  "1F7F0 aHEAVY EQUALS SIGN",
  "1F800 aLEFTWARDS ARROW WITH SMALL TRIANGLE ARROWHEADaUPWARDS ARROW WITH SMALL TRIANGLE ARROWHEAD",
  "aRIGHTWARDS ARROW WITH SMALL TRIANGLE ARROWHEADaDOWNWARDS ARROW WITH SMALL TRIANGLE ARROWHEAD",
  "aLEFTWARDS ARROW WITH MEDIUM TRIANGLE ARROWHEADaUPWARDS ARROW WITH MEDIUM TRIANGLE ARROWHEAD",
  "aRIGHTWARDS ARROW WITH MEDIUM TRIANGLE ARROWHEADaDOWNWARDS ARROW WITH MEDIUM TRIANGLE ARROWHEAD",
  "aLEFTWARDS ARROW WITH LARGE TRIANGLE ARROWHEADaUPWARDS ARROW WITH LARGE TRIANGLE ARROWHEAD",
  "aRIGHTWARDS ARROW WITH LARGE TRIANGLE ARROWHEADaDOWNWARDS ARROW WITH LARGE TRIANGLE ARROWHEAD",
  "1F810 aLEFTWARDS ARROW WITH SMALL EQUILATERAL ARROWHEADaUPWARDS ARROW WITH SMALL EQUILATERAL ARROWHEAD",
  "aRIGHTWARDS ARROW WITH SMALL EQUILATERAL ARROWHEADaDOWNWARDS ARROW WITH SMALL EQUILATERAL ARROWHEAD",
  "aLEFTWARDS ARROW WITH EQUILATERAL ARROWHEADaUPWARDS ARROW WITH EQUILATERAL ARROWHEAD",
  "aRIGHTWARDS ARROW WITH EQUILATERAL ARROWHEADaDOWNWARDS ARROW WITH EQUILATERAL ARROWHEAD",
  "aHEAVY LEFTWARDS ARROW WITH EQUILATERAL ARROWHEADbUPWARDS ARROW WITH EQUILATERAL ARROWHEAD",
  "bRIGHTWARDS ARROW WITH EQUILATERAL ARROWHEADbDOWNWARDS ARROW WITH EQUILATERAL ARROWHEAD",
  "bLEFTWARDS ARROW WITH LARGE EQUILATERAL ARROWHEADbUPWARDS ARROW WITH LARGE EQUILATERAL ARROWHEAD",
  "bRIGHTWARDS ARROW WITH LARGE EQUILATERAL ARROWHEADbDOWNWARDS ARROW WITH LARGE EQUILATERAL ARROWHEAD",
  "aLEFTWARDS TRIANGLE-HEADED ARROW WITH NARROW SHAFTaUPWARDS TRIANGLE-HEADED ARROW WITH NARROW SHAFT",
  "aRIGHTWARDS TRIANGLE-HEADED ARROW WITH NARROW SHAFTaDOWNWARDS TRIANGLE-HEADED ARROW WITH NARROW SHAFT",
  "aLEFTWARDS TRIANGLE-HEADED ARROW WITH MEDIUM SHAFTaUPWARDS TRIANGLE-HEADED ARROW WITH MEDIUM SHAFT",
  "aRIGHTWARDS TRIANGLE-HEADED ARROW WITH MEDIUM SHAFTaDOWNWARDS TRIANGLE-HEADED ARROW WITH MEDIUM SHAFT",
  "aLEFTWARDS TRIANGLE-HEADED ARROW WITH BOLD SHAFTaUPWARDS TRIANGLE-HEADED ARROW WITH BOLD SHAFT",
  "aRIGHTWARDS TRIANGLE-HEADED ARROW WITH BOLD SHAFTaDOWNWARDS TRIANGLE-HEADED ARROW WITH BOLD SHAFT",
  "aLEFTWARDS TRIANGLE-HEADED ARROW WITH HEAVY SHAFTaUPWARDS TRIANGLE-HEADED ARROW WITH HEAVY SHAFT",
  "aRIGHTWARDS TRIANGLE-HEADED ARROW WITH HEAVY SHAFTaDOWNWARDS TRIANGLE-HEADED ARROW WITH HEAVY SHAFT",
  "aLEFTWARDS TRIANGLE-HEADED ARROW WITH VERY HEAVY SHAFTaUPWARDS TRIANGLE-HEADED ARROW WITH VERY HEAVY SHAFT",
  "aRIGHTWARDS TRIANGLE-HEADED ARROW WITH VERY HEAVY SHAFTaDOWNWARDS TRIANGLE-HEADED ARROW WITH VERY HEAVY SHAFT",
  "aLEFTWARDS FINGER-POST ARROWaUPWARDS FINGER-POST ARROWaRIGHTWARDS FINGER-POST ARROWaDOWNWARDS FINGER-POST ARROW",
  "aLEFTWARDS SQUARED ARROWaUPWARDS SQUARED ARROWaRIGHTWARDS SQUARED ARROWaDOWNWARDS SQUARED ARROW",
  "aLEFTWARDS COMPRESSED ARROWaUPWARDS COMPRESSED ARROWaRIGHTWARDS COMPRESSED ARROWaDOWNWARDS COMPRESSED ARROW",
  "aLEFTWARDS HEAVY COMPRESSED ARROWaUPWARDS HEAVY COMPRESSED ARROWaRIGHTWARDS HEAVY COMPRESSED ARROW",
  "aDOWNWARDS HEAVY COMPRESSED ARROWaLEFTWARDS HEAVY ARROWaUPWARDS HEAVY ARROWaRIGHTWARDS HEAVY ARROW",
  "aDOWNWARDS HEAVY ARROW",
  "1F850 aLEFTWARDS SANS-SERIF ARROWaUPWARDS SANS-SERIF ARROWaRIGHTWARDS SANS-SERIF ARROW",
  "aDOWNWARDS SANS-SERIF ARROWaNORTH WEST SANS-SERIF ARROWbEAST SANS-SERIF ARROWaSOUTH EAST SANS-SERIF ARROW",
  "bWEST SANS-SERIF ARROWaLEFT RIGHT SANS-SERIF ARROWaUP DOWN SANS-SERIF ARROW",
  "1F860 aWIDE-HEADED LEFTWARDS LIGHT BARB ARROWbUPWARDS LIGHT BARB ARROWbRIGHTWARDS LIGHT BARB ARROW",
  "bDOWNWARDS LIGHT BARB ARROWbNORTH WEST LIGHT BARB ARROWcEAST LIGHT BARB ARROWbSOUTH EAST LIGHT BARB ARROW",
  "cWEST LIGHT BARB ARROWbLEFTWARDS BARB ARROWbUPWARDS BARB ARROWbRIGHTWARDS BARB ARROWbDOWNWARDS BARB ARROW",
  "bNORTH WEST BARB ARROWcEAST BARB ARROWbSOUTH EAST BARB ARROWcWEST BARB ARROWbLEFTWARDS MEDIUM BARB ARROW",
  "bUPWARDS MEDIUM BARB ARROWbRIGHTWARDS MEDIUM BARB ARROWbDOWNWARDS MEDIUM BARB ARROWbNORTH WEST MEDIUM BARB ARROW",
  "cEAST MEDIUM BARB ARROWbSOUTH EAST MEDIUM BARB ARROWcWEST MEDIUM BARB ARROWbLEFTWARDS HEAVY BARB ARROW",
  "bUPWARDS HEAVY BARB ARROWbRIGHTWARDS HEAVY BARB ARROWbDOWNWARDS HEAVY BARB ARROWbNORTH WEST HEAVY BARB ARROW",
  "cEAST HEAVY BARB ARROWbSOUTH EAST HEAVY BARB ARROWcWEST HEAVY BARB ARROWbLEFTWARDS VERY HEAVY BARB ARROW",
  "bUPWARDS VERY HEAVY BARB ARROWbRIGHTWARDS VERY HEAVY BARB ARROWbDOWNWARDS VERY HEAVY BARB ARROW",
  "bNORTH WEST VERY HEAVY BARB ARROWcEAST VERY HEAVY BARB ARROWbSOUTH EAST VERY HEAVY BARB ARROW",
  "cWEST VERY HEAVY BARB ARROW",
  "1F890 aLEFTWARDS TRIANGLE ARROWHEADaUPWARDS TRIANGLE ARROWHEADaRIGHTWARDS TRIANGLE ARROWHEAD",
  "aDOWNWARDS TRIANGLE ARROWHEADaLEFTWARDS WHITE ARROW WITHIN TRIANGLE ARROWHEAD",
  "aUPWARDS WHITE ARROW WITHIN TRIANGLE ARROWHEADaRIGHTWARDS WHITE ARROW WITHIN TRIANGLE ARROWHEAD",
  "aDOWNWARDS WHITE ARROW WITHIN TRIANGLE ARROWHEADaLEFTWARDS ARROW WITH NOTCHED TAIL",
  "aUPWARDS ARROW WITH NOTCHED TAILaRIGHTWARDS ARROW WITH NOTCHED TAILaDOWNWARDS ARROW WITH NOTCHED TAIL",
  "aHEAVY ARROW SHAFT WIDTH ONEeTWO THIRDSeONE HALFfTHIRDaLEFTWARDS BOTTOM-SHADED WHITE ARROW",
  "aRIGHTWARDS BOTTOM SHADED WHITE ARROWaLEFTWARDS TOP SHADED WHITE ARROWaRIGHTWARDS TOP SHADED WHITE ARROW",
  "aLEFTWARDS LEFT-SHADED WHITE ARROWaRIGHTWARDS RIGHT-SHADED WHITE ARROWaLEFTWARDS RIGHT-SHADED WHITE ARROW",
  "aRIGHTWARDS LEFT-SHADED WHITE ARROWaLEFTWARDS BACK-TILTED SHADOWED WHITE ARROW",
  "aRIGHTWARDS BACK-TILTED SHADOWED WHITE ARROWaLEFTWARDS FRONT-TILTED SHADOWED WHITE ARROW",
  "aRIGHTWARDS FRONT-TILTED SHADOWED WHITE ARROWaWHITE ARROW SHAFT WIDTH ONEeTWO THIRDS",
  "1F8B0 aARROW POINTING UPWARDS THEN NORTH WESTcRIGHTWARDS THEN CURVING SOUTH WEST",
  "1F900 aCIRCLED CROSS FORMEE WITH FOUR DOTSeTWO DOTScFORMEEaLEFT HALF CIRCLE WITH FOUR DOTSeTHREE DOTSeTWO DOTS",
  "eDOTcCIRCLEaDOWNWARD FACING HOOKcNOTCHED HOOKcHOOK WITH DOTcNOTCHED HOOK WITH DOTaPINCHED FINGERSaWHITE HEART",
  "aBROWN HEARTaPINCHING HANDaZIPPER-MOUTH FACEaMONEY-MOUTH FACEaFACE WITH THERMOMETERaNERD FACEaTHINKING FACE",
  "aFACE WITH HEAD-BANDAGEaROBOT FACEaHUGGING FACEaSIGN OF THE HORNSaCALL ME HANDaRAISED BACK OF HAND",
  "aLEFT-FACING FISTaRIGHT-FACING FISTaHANDSHAKEaHAND WITH INDEX AND MIDDLE FINGERS CROSSEDaI LOVE YOU HAND SIGN",
  "aFACE WITH COWBOY HATaCLOWN FACEaNAUSEATED FACEaROLLING ON THE FLOOR LAUGHINGaDROOLING FACEaLYING FACEaFACE PALM",
  "aSNEEZING FACEaFACE WITH ONE EYEBROW RAISEDaGRINNING FACE WITH STAR EYESdONE LARGE AND ONE SMALL EYE",
  "aFACE WITH FINGER COVERING CLOSED LIPSaSERIOUS FACE WITH SYMBOLS COVERING MOUTH",
  "aSMILING FACE WITH SMILING EYES AND HAND COVERING MOUTHaFACE WITH OPEN MOUTH VOMITING",
  "aSHOCKED FACE WITH EXPLODING HEADaPREGNANT WOMANaBREAST-FEEDINGaPALMS UP TOGETHERaSELFIEaPRINCEaMAN IN TUXEDO",
  "aMOTHER CHRISTMASaSHRUGaPERSON DOING CARTWHEELaJUGGLINGaFENCERaMODERN PENTATHLONaWRESTLERSaWATER POLOaHANDBALL",
  "aDIVING MASKaWILTED FLOWERaDRUM WITH DRUMSTICKSaCLINKING GLASSESaTUMBLER GLASSaSPOONaGOAL NETaRIFLE",
  "aFIRST PLACE MEDALaSECOND PLACE MEDALaTHIRD PLACE MEDALaBOXING GLOVEaMARTIAL ARTS UNIFORMaCURLING STONE",
  "aLACROSSE STICK AND BALLaSOFTBALLaFLYING DISCaCROISSANTaAVOCADOaCUCUMBERaBACONaPOTATOaCARROTaBAGUETTE BREAD",
  "aGREEN SALADaSHALLOW PAN OF FOODaSTUFFED FLATBREADaEGGaGLASS OF MILKaPEANUTSaKIWIFRUITaPANCAKESaDUMPLING",
  "aFORTUNE COOKIEaTAKEOUT BOXaCHOPSTICKSaBOWL WITH SPOONaCUP WITH STRAWaCOCONUTaBROCCOLIaPIEaPRETZELaCUT OF MEAT",
  "aSANDWICHaCANNED FOODaLEAFY GREENaMANGOaMOON CAKEaBAGELaSMILING FACE WITH SMILING EYES AND THREE HEARTS",
  "aYAWNING FACEaSMILING FACE WITH TEARaFACE WITH PARTY HORN AND PARTY HATcUNEVEN EYES AND WAVY MOUTH",
  "aOVERHEATED FACEaFREEZING FACEaNINJAaDISGUISED FACEaFACE HOLDING BACK TEARSbWITH PLEADING EYESaSARIaLAB COAT",
  "aGOGGLESaHIKING BOOTaFLAT SHOEaCRABaLION FACEaSCORPIONaTURKEYaUNICORN FACEaEAGLEaDUCKaBATaSHARKaOWLaFOX FACE",
  "aBUTTERFLYaDEERaGORILLAaLIZARDaRHINOCEROSaSHRIMPaSQUIDaGIRAFFE FACEaZEBRA FACEaHEDGEHOGaSAUROPODaT-REXaCRICKET",
  "aKANGAROOaLLAMAaPEACOCKaHIPPOPOTAMUSaPARROTaRACCOONaLOBSTERaMOSQUITOaMICROBEaBADGERaSWANaMAMMOTHaDODOaSLOTH",
  "aOTTERaORANGUTANaSKUNKaFLAMINGOaOYSTERaBEAVERaBISONaSEALaGUIDE DOGaPROBING CANEaEMOJI COMPONENT RED HAIR",
  "cCURLY HAIRcBALDcWHITE HAIRaBONEaLEGaFOOTaTOOTHaSUPERHEROaSUPERVILLAINaSAFETY VESTaEAR WITH HEARING AID",
  "aMOTORIZED WHEELCHAIRaMANUAL WHEELCHAIRaMECHANICAL ARMbLEGaCHEESE WEDGEaCUPCAKEaSALT SHAKERaBEVERAGE BOXaGARLIC",
  "aONIONaFALAFELaWAFFLEaBUTTERaMATE DRINKaICE CUBEaBUBBLE TEAaTROLLaSTANDING PERSONaKNEELING PERSONaDEAF PERSON",
  "aFACE WITH MONOCLEaADULTaCHILDaOLDER ADULTaBEARDED PERSONaPERSON WITH HEADSCARFbIN STEAMY ROOMbCLIMBING",
  "bIN LOTUS POSITIONaMAGEaFAIRYaVAMPIREaMERPERSONaELFaGENIEaZOMBIEaBRAINaORANGE HEARTaBILLED CAPaSCARFaGLOVESaCOAT",
  "aSOCKSaRED GIFT ENVELOPEaFIRECRACKERaJIGSAW PUZZLE PIECEaTEST TUBEaPETRI DISHaDNA DOUBLE HELIXaCOMPASSaABACUS",
  "aFIRE EXTINGUISHERaTOOLBOXaBRICKaMAGNETaLUGGAGEaLOTION BOTTLEaSPOOL OF THREADaBALL OF YARNaSAFETY PINaTEDDY BEAR",
  "aBROOMaBASKETaROLL OF PAPERaBAR OF SOAPaSPONGEaRECEIPTaNAZAR AMULETaNEUTRAL CHESS KINGcQUEENcROOKcBISHOPcKNIGHT",
  "cPAWNaWHITE CHESS KNIGHT ROTATED FORTY-FIVE DEGREESaBLACK CHESS KNIGHT ROTATED FORTY-FIVE DEGREES",
  "aNEUTRAL CHESS KNIGHT ROTATED FORTY-FIVE DEGREESaWHITE CHESS KING ROTATED NINETY DEGREES",
  "cQUEEN ROTATED NINETY DEGREEScROOK ROTATED NINETY DEGREEScBISHOP ROTATED NINETY DEGREES",
  "cKNIGHT ROTATED NINETY DEGREEScPAWN ROTATED NINETY DEGREESaBLACK CHESS KING ROTATED NINETY DEGREES",
  "cQUEEN ROTATED NINETY DEGREEScROOK ROTATED NINETY DEGREEScBISHOP ROTATED NINETY DEGREES",
  "cKNIGHT ROTATED NINETY DEGREEScPAWN ROTATED NINETY DEGREESaNEUTRAL CHESS KING ROTATED NINETY DEGREES",
  "cQUEEN ROTATED NINETY DEGREEScROOK ROTATED NINETY DEGREEScBISHOP ROTATED NINETY DEGREES",
  "cKNIGHT ROTATED NINETY DEGREEScPAWN ROTATED NINETY DEGREES",
  "aWHITE CHESS KNIGHT ROTATED ONE HUNDRED THIRTY-FIVE DEGREES",
  "aBLACK CHESS KNIGHT ROTATED ONE HUNDRED THIRTY-FIVE DEGREES",
  "aNEUTRAL CHESS KNIGHT ROTATED ONE HUNDRED THIRTY-FIVE DEGREESaWHITE CHESS TURNED KINGdQUEENdROOKdBISHOPdKNIGHT",
  "dPAWNaBLACK CHESS TURNED KINGdQUEENdROOKdBISHOPdKNIGHTdPAWNaNEUTRAL CHESS TURNED KINGdQUEENdROOKdBISHOPdKNIGHT",
  "dPAWNaWHITE CHESS KNIGHT ROTATED TWO HUNDRED TWENTY-FIVE DEGREES",
  "aBLACK CHESS KNIGHT ROTATED TWO HUNDRED TWENTY-FIVE DEGREES",
  "aNEUTRAL CHESS KNIGHT ROTATED TWO HUNDRED TWENTY-FIVE DEGREES",
  "aWHITE CHESS KING ROTATED TWO HUNDRED SEVENTY DEGREEScQUEEN ROTATED TWO HUNDRED SEVENTY DEGREES",
  "cROOK ROTATED TWO HUNDRED SEVENTY DEGREEScBISHOP ROTATED TWO HUNDRED SEVENTY DEGREES",
  "cKNIGHT ROTATED TWO HUNDRED SEVENTY DEGREEScPAWN ROTATED TWO HUNDRED SEVENTY DEGREES",
  "aBLACK CHESS KING ROTATED TWO HUNDRED SEVENTY DEGREEScQUEEN ROTATED TWO HUNDRED SEVENTY DEGREES",
  "cROOK ROTATED TWO HUNDRED SEVENTY DEGREEScBISHOP ROTATED TWO HUNDRED SEVENTY DEGREES",
  "cKNIGHT ROTATED TWO HUNDRED SEVENTY DEGREEScPAWN ROTATED TWO HUNDRED SEVENTY DEGREES",
  "aNEUTRAL CHESS KING ROTATED TWO HUNDRED SEVENTY DEGREEScQUEEN ROTATED TWO HUNDRED SEVENTY DEGREES",
  "cROOK ROTATED TWO HUNDRED SEVENTY DEGREEScBISHOP ROTATED TWO HUNDRED SEVENTY DEGREES",
  "cKNIGHT ROTATED TWO HUNDRED SEVENTY DEGREEScPAWN ROTATED TWO HUNDRED SEVENTY DEGREES",
  "aWHITE CHESS KNIGHT ROTATED THREE HUNDRED FIFTEEN DEGREES",
  "aBLACK CHESS KNIGHT ROTATED THREE HUNDRED FIFTEEN DEGREES",
  "aNEUTRAL CHESS KNIGHT ROTATED THREE HUNDRED FIFTEEN DEGREESaWHITE CHESS EQUIHOPPERaBLACK CHESS EQUIHOPPER",
  "aNEUTRAL CHESS EQUIHOPPERaWHITE CHESS EQUIHOPPER ROTATED NINETY DEGREES",
  "aBLACK CHESS EQUIHOPPER ROTATED NINETY DEGREESaNEUTRAL CHESS EQUIHOPPER ROTATED NINETY DEGREES",
  "aWHITE CHESS KNIGHT-QUEENcKNIGHT-ROOKcKNIGHT-BISHOPaBLACK CHESS KNIGHT-QUEENcKNIGHT-ROOKcKNIGHT-BISHOP",
  "1FA60 aXIANGQI RED GENERALcMANDARINcELEPHANTcHORSEcCHARIOTcCANNONcSOLDIERbBLACK GENERALcMANDARINcELEPHANTcHORSE",
  "cCHARIOTcCANNONcSOLDIER",
  "1FA70 aBALLET SHOESaONE-PIECE SWIMSUITaBRIEFSaSHORTSaTHONG SANDAL",
  "1FA78 aDROP OF BLOODaADHESIVE BANDAGEaSTETHOSCOPEaX-RAYaCRUTCH",
  "1FA80 aYO-YOaKITEaPARACHUTEaBOOMERANGaMAGIC WANDaPINATAaNESTING DOLLS",
  "1FA90 aRINGED PLANETaCHAIRaRAZORaAXEaDIYA LAMPaBANJOaMILITARY HELMETaACCORDIONaLONG DRUMaCOINaCARPENTRY SAW",
  "aSCREWDRIVERaLADDERaHOOKaMIRRORaWINDOWaPLUNGERaSEWING NEEDLEaKNOTaBUCKETaMOUSE TRAPaTOOTHBRUSHaHEADSTONEaPLACARD",
  "aROCKaMIRROR BALLaIDENTIFICATION CARDaLOW BATTERYaHAMSA",
  "1FAB0 aFLYaWORMaBEETLEaCOCKROACHaPOTTED PLANTaWOODaFEATHERaLOTUSaCORALaEMPTY NESTaNEST WITH EGGS",
  "1FAC0 aANATOMICAL HEARTaLUNGSaPEOPLE HUGGINGaPREGNANT MANbPERSONaPERSON WITH CROWN",
  "1FAD0 aBLUEBERRIESaBELL PEPPERaOLIVEaFLATBREADaTAMALEaFONDUEaTEAPOTaPOURING LIQUIDaBEANSaJAR",
  "1FAE0 aMELTING FACEaSALUTING FACEaFACE WITH OPEN EYES AND HAND OVER MOUTHcPEEKING EYEcDIAGONAL MOUTH",
  "aDOTTED LINE FACEaBITING LIPaBUBBLES",
  "1FAF0 aHAND WITH INDEX FINGER AND THUMB CROSSEDaRIGHTWARDS HANDaLEFTWARDS HANDaPALM DOWN HANDbUP HAND",
  "aINDEX POINTING AT THE VIEWERaHEART HANDS",
  "1FB00 aBLOCK SEXTANT-1+bSEXTANT-12bSEXTANT-3bSEXTANT-13bSEXTANT-23bSEXTANT-123bSEXTANT-4bSEXTANT-14bSEXTANT-24",
  "bSEXTANT-124bSEXTANT-34bSEXTANT-134bSEXTANT-234bSEXTANT-1234bSEXTANT-5bSEXTANT-15bSEXTANT-25bSEXTANT-125",
  "bSEXTANT-35bSEXTANT-235bSEXTANT-1235bSEXTANT-45bSEXTANT-145bSEXTANT-245bSEXTANT-1245bSEXTANT-345bSEXTANT-1345",
  "bSEXTANT-2345bSEXTANT-12345bSEXTANT-6bSEXTANT-16bSEXTANT-26bSEXTANT-126bSEXTANT-36bSEXTANT-136bSEXTANT-236",
  "bSEXTANT-1236bSEXTANT-46bSEXTANT-146bSEXTANT-1246bSEXTANT-346bSEXTANT-1346bSEXTANT-2346bSEXTANT-12346bSEXTANT-56",
  "bSEXTANT-156bSEXTANT-256bSEXTANT-1256bSEXTANT-356bSEXTANT-1356bSEXTANT-2356bSEXTANT-12356bSEXTANT-456",
  "bSEXTANT-1456bSEXTANT-2456bSEXTANT-12456bSEXTANT-3456bSEXTANT-13456bSEXTANT-23456",
  "aLOWER LEFT BLOCK DIAGONAL LOWER MIDDLE LEFT TO LOWER CENTREjRIGHTeUPPER MIDDLE LEFT TO LOWER CENTREjRIGHT",
  "fLEFT TO LOWER CENTREbRIGHT BLOCK DIAGONAL UPPER MIDDLE LEFT TO UPPER CENTREjRIGHT",
  "eLOWER MIDDLE LEFT TO UPPER CENTREjRIGHTfLEFT TO UPPER CENTREfMIDDLE LEFT TO UPPER MIDDLE RIGHT",
  "fCENTRE TO LOWER MIDDLE RIGHTfLEFT TO LOWER MIDDLE RIGHTfCENTRE TO UPPER MIDDLE RIGHTfLEFT TO UPPER MIDDLE RIGHT",
  "fCENTRE TO UPPER RIGHTbLEFT BLOCK DIAGONAL UPPER CENTRE TO UPPER MIDDLE RIGHTfLEFT TO UPPER MIDDLE RIGHT",
  "fCENTRE TO LOWER MIDDLE RIGHTfLEFT TO LOWER MIDDLE RIGHTfCENTRE TO LOWER RIGHTfMIDDLE LEFT TO LOWER MIDDLE RIGHT",
  "aUPPER RIGHT BLOCK DIAGONAL LOWER MIDDLE LEFT TO LOWER CENTREjRIGHTeUPPER MIDDLE LEFT TO LOWER CENTREjRIGHT",
  "fLEFT TO LOWER CENTREbLEFT BLOCK DIAGONAL UPPER MIDDLE LEFT TO UPPER CENTREjRIGHT",
  "eLOWER MIDDLE LEFT TO UPPER CENTREjRIGHTfLEFT TO UPPER CENTREfMIDDLE LEFT TO UPPER MIDDLE RIGHT",
  "fCENTRE TO LOWER MIDDLE RIGHTfLEFT TO LOWER MIDDLE RIGHTfCENTRE TO UPPER MIDDLE RIGHTfLEFT TO UPPER MIDDLE RIGHT",
  "fCENTRE TO UPPER RIGHTbRIGHT BLOCK DIAGONAL UPPER CENTRE TO UPPER MIDDLE RIGHTfLEFT TO UPPER MIDDLE RIGHT",
  "fCENTRE TO LOWER MIDDLE RIGHTfLEFT TO LOWER MIDDLE RIGHTfCENTRE TO LOWER RIGHTfMIDDLE LEFT TO LOWER MIDDLE RIGHT",
  "bAND RIGHT AND LOWER TRIANGULAR THREE QUARTERS BLOCKaLEFT AND LOWER AND RIGHT TRIANGULAR THREE QUARTERS BLOCK",
  "aUPPER AND LEFT AND LOWER TRIANGULAR THREE QUARTERS BLOCK",
  "aLEFT AND UPPER AND RIGHT TRIANGULAR THREE QUARTERS BLOCKbTRIANGULAR ONE QUARTER BLOCK",
  "aUPPER TRIANGULAR ONE QUARTER BLOCKaRIGHT TRIANGULAR ONE QUARTER BLOCKaLOWER TRIANGULAR ONE QUARTER BLOCK",
  "aVERTICAL ONE EIGHTH BLOCK-2+++++aHORIZONTAL ONE EIGHTH BLOCK-2+++++aLEFT AND LOWER ONE EIGHTH BLOCK",
  "cUPPER ONE EIGHTH BLOCKaRIGHT AND UPPER ONE EIGHTH BLOCKcLOWER ONE EIGHTH BLOCKaUPPER AND LOWER ONE EIGHTH BLOCK",
  "aHORIZONTAL ONE EIGHTH BLOCK-1358aUPPER ONE QUARTER BLOCKbTHREE EIGHTHS BLOCKbFIVE EIGHTHS BLOCK",
  "bTHREE QUARTERS BLOCKbSEVEN EIGHTHS BLOCKaRIGHT ONE QUARTER BLOCKbTHREE EIGHTHS BLOCKbFIVE EIGHTHS BLOCK",
  "bTHREE QUARTERS BLOCKbSEVEN EIGHTHS BLOCKaLEFT HALF MEDIUM SHADEaRIGHT HALF MEDIUM SHADEaUPPER HALF MEDIUM SHADE",
  "aLOWER HALF MEDIUM SHADEaINVERSE MEDIUM SHADEaUPPER HALF BLOCK AND LOWER HALF INVERSE MEDIUM SHADE",
  "cINVERSE MEDIUM SHADE AND LOWER HALF BLOCK",
  "1FB94 aLEFT HALF INVERSE MEDIUM SHADE AND RIGHT HALF BLOCKaCHECKER BOARD FILLaINVERSE CHECKER BOARD FILL",
  "aHEAVY HORIZONTAL FILLaUPPER LEFT TO LOWER RIGHT FILLbRIGHT TO LOWER LEFT FILLbAND LOWER TRIANGULAR HALF BLOCK",
  "aLEFT AND RIGHT TRIANGULAR HALF BLOCKaUPPER LEFT TRIANGULAR MEDIUM SHADEbRIGHT TRIANGULAR MEDIUM SHADE",
  "aLOWER RIGHT TRIANGULAR MEDIUM SHADEbLEFT TRIANGULAR MEDIUM SHADE",
  "aBOX DRAWINGS LIGHT DIAGONAL UPPER CENTRE TO MIDDLE LEFTiRIGHTeMIDDLE LEFT TO LOWER CENTREfRIGHT TO LOWER CENTRE",
  "eUPPER CENTRE TO MIDDLE LEFT TO LOWER CENTREiRIGHT TO LOWER CENTREeMIDDLE LEFT TO LOWER CENTRE TO MIDDLE RIGHT",
  "hUPPER CENTRE TO MIDDLE RIGHTeUPPER CENTRE TO MIDDLE LEFT AND MIDDLE RIGHT TO LOWER CENTRE",
  "iRIGHT AND MIDDLE LEFT TO LOWER CENTREjTO LOWER CENTRE TO MIDDLE LEFTiLEFT TO LOWER CENTRE TO MIDDLE RIGHT",
  "eMIDDLE LEFT TO UPPER CENTRE TO MIDDLE RIGHT TO LOWER CENTRE",
  "fRIGHT TO UPPER CENTRE TO MIDDLE LEFT TO LOWER CENTREeDIAMONDdHORIZONTAL WITH VERTICAL STROKE",
  "aARROWHEAD-SHAPED POINTERaINVERSE CHECK MARKaLEFT HALF RUNNING MANaRIGHT HALF RUNNING MAN",
  "aINVERSE DOWNWARDS ARROW WITH TIP LEFTWARDSaLEFTWARDS ARROW AND UPPER AND LOWER ONE EIGHTH BLOCK",
  "aRIGHTWARDS ARROW AND UPPER AND LOWER ONE EIGHTH BLOCKaDOWNWARDS ARROW AND RIGHT ONE EIGHTH BLOCK",
  "aUPWARDS ARROW AND RIGHT ONE EIGHTH BLOCKaLEFT HALF FOLDERaRIGHT HALF FOLDERaVOIDED GREEK CROSS",
  "aRIGHT OPEN SQUARED DOTaNEGATIVE DIAGONAL CROSScMIDDLE RIGHT TO LOWER CENTREcDIAMOND",
  "aWHITE HEAVY SALTIRE WITH ROUNDED CORNERSaLEFT THIRD WHITE RIGHT POINTING INDEX",
  "aMIDDLE THIRD WHITE RIGHT POINTING INDEXaRIGHT THIRD WHITE RIGHT POINTING INDEXaNEGATIVE SQUARED QUESTION MARK",
  "aSTICK FIGUREcWITH ARMS RAISEDcLEANING LEFTdRIGHTcWITH DRESSaWHITE UP-POINTING CHEVRON",
  "1FBF0 aSEGMENTED DIGIT ZEROcONEcTWOcTHREEcFOURcFIVEcSIXcSEVENcEIGHTcNINE",
  "E0001 aLANGUAGE TAG",
  "E0020 aTAG SPACEbEXCLAMATION MARKbQUOTATION MARKbNUMBER SIGNbDOLLAR SIGNbPERCENT SIGNbAMPERSANDbAPOSTROPHE",
  "bLEFT PARENTHESISbRIGHT PARENTHESISbASTERISKbPLUS SIGNbCOMMAbHYPHEN-MINUSbFULL STOPbSOLIDUSbDIGIT ZEROcONEcTWO",
  "cTHREEcFOURcFIVEcSIXcSEVENcEIGHTcNINEbCOLONbSEMICOLONbLESS-THAN SIGNbEQUALS SIGNbGREATER-THAN SIGNbQUESTION MARK",
  "bCOMMERCIAL ATbLATIN CAPITAL LETTER AeBeCeDeEeFeGeHeIeJeKeLeMeNeOePeQeReSeTeUeVeWeXeYeZbLEFT SQUARE BRACKET",
  "bREVERSE SOLIDUSbRIGHT SQUARE BRACKETbCIRCUMFLEX ACCENTbLOW LINEbGRAVE ACCENTbLATIN SMALL LETTER AeBeCeDeEeFeGeH",
  "eIeJeKeLeMeNeOePeQeReSeTeUeVeWeXeYeZbLEFT CURLY BRACKETbVERTICAL LINEbRIGHT CURLY BRACKETbTILDEaCANCEL TAG",
  "E0100 aVARIATION SELECTOR-17++++++++++++++++++++++++++++++++++++++++++++++++++++++++++++++++++++++++++++++++++++",
  "++++++++++++++++++++++++++++++++++++++++++++++++++++++++++++++++++++++++++++++++++++++++++++++++++++++++++++++++",
  "+++++++++++++++++++++++++++++++++++++++++++"]

end SpellLint.Text
