import PrivilegeCatalog.Text.Pieces

/-!
# Pictographs

Characters and sequences of characters that have short names, which are written between colons. An
entry of the table gives the code points of a pictograph and, after a sign of equality, its names.
-/

namespace PrivilegeCatalog.Console

/-- The pictographs and their names. -/
def pictographTable : List String :=
  ["1F947=1st_place_medal 1F948=2nd_place_medal 1F949=3rd_place_medal",
   "1F18E=ab_button_(blood_type)|ab 1F3E7=atm_sign|atm 1F170=a_button_(blood_type)|a",
   "1F1E6-1F1EB=afghanistan|flag_for_afghanistan 1F1E6-1F1F1=albania|flag_for_albania",
   "1F1E9-1F1FF=algeria|flag_for_algeria 1F1E6-1F1F8=american_samoa|flag_for_american_samoa",
   "1F1E6-1F1E9=andorra|flag_for_andorra 1F1E6-1F1F4=angola|flag_for_angola",
   "1F1E6-1F1EE=anguilla|flag_for_anguilla 1F1E6-1F1F6=antarctica|flag_for_antarctica",
   "1F1E6-1F1EC=antigua_&_barbuda|flag_for_antigua_&_barbuda 2652=aquarius",
   "1F1E6-1F1F7=argentina|flag_for_argentina 2648=aries 1F1E6-1F1F2=armenia|flag_for_armenia",
   "1F1E6-1F1FC=aruba|flag_for_aruba 1F1E6-1F1E8=ascension_island|flag_for_ascension_island",
   "1F1E6-1F1FA=australia|flag_for_australia 1F1E6-1F1F9=austria|flag_for_austria",
   "1F1E6-1F1FF=azerbaijan|flag_for_azerbaijan 1F519=back_arrow|back",
   "1F171=b_button_(blood_type)|b 1F1E7-1F1F8=bahamas|flag_for_bahamas",
   "1F1E7-1F1ED=bahrain|flag_for_bahrain 1F1E7-1F1E9=bangladesh|flag_for_bangladesh",
   "1F1E7-1F1E7=barbados|flag_for_barbados 1F1E7-1F1FE=belarus|flag_for_belarus",
   "1F1E7-1F1EA=belgium|flag_for_belgium 1F1E7-1F1FF=belize|flag_for_belize",
   "1F1E7-1F1EF=benin|flag_for_benin 1F1E7-1F1F2=bermuda|flag_for_bermuda",
   "1F1E7-1F1F9=bhutan|flag_for_bhutan 1F1E7-1F1F4=bolivia|flag_for_bolivia",
   "1F1E7-1F1E6=bosnia_&_herzegovina|flag_for_bosnia_&_herzegovina",
   "1F1E7-1F1FC=botswana|flag_for_botswana 1F1E7-1F1FB=bouvet_island|flag_for_bouvet_island",
   "1F1E7-1F1F7=brazil|flag_for_brazil",
   "1F1EE-1F1F4=british_indian_ocean_territory|flag_for_british_indian_ocean_territory",
   "1F1FB-1F1EC=british_virgin_islands|flag_for_british_virgin_islands",
   "1F1E7-1F1F3=brunei|flag_for_brunei 1F1E7-1F1EC=bulgaria|flag_for_bulgaria",
   "1F1E7-1F1EB=burkina_faso|flag_for_burkina_faso 1F1E7-1F1EE=burundi|flag_for_burundi",
   "1F191=cl_button|cl 1F192=cool_button|cool 1F1F0-1F1ED=cambodia|flag_for_cambodia",
   "1F1E8-1F1F2=cameroon|flag_for_cameroon 1F1E8-1F1E6=canada|flag_for_canada",
   "1F1EE-1F1E8=canary_islands|flag_for_canary_islands 264B=cancer",
   "1F1E8-1F1FB=cape_verde|flag_for_cape_verde 2651=capricorn",
   "1F1E7-1F1F6=caribbean_netherlands|flag_for_caribbean_netherlands",
   "1F1F0-1F1FE=cayman_islands|flag_for_cayman_islands",
   "1F1E8-1F1EB=central_african_republic|flag_for_central_african_republic",
   "1F1EA-1F1E6=ceuta_&_melilla|flag_for_ceuta_&_melilla 1F1F9-1F1E9=chad|flag_for_chad",
   "1F1E8-1F1F1=chile|flag_for_chile 1F1E8-1F1F3=china|flag_for_china",
   "1F1E8-1F1FD=christmas_island|flag_for_christmas_island 1F384=christmas_tree",
   "1F1E8-1F1F5=clipperton_island|flag_for_clipperton_island",
   "1F1E8-1F1E8=cocos_(keeling)_islands|flag_for_cocos__islands",
   "1F1E8-1F1F4=colombia|flag_for_colombia 1F1F0-1F1F2=comoros|flag_for_comoros",
   "1F1E8-1F1EC=congo_-_brazzaville|flag_for_congo____brazzaville",
   "1F1E8-1F1E9=congo_-_kinshasa|flag_for_congo____kinshasa",
   "1F1E8-1F1F0=cook_islands|flag_for_cook_islands 1F1E8-1F1F7=costa_rica|flag_for_costa_rica",
   "1F1ED-1F1F7=croatia|flag_for_croatia 1F1E8-1F1FA=cuba|flag_for_cuba",
   "1F1E8-1F1FC=curaçao|flag_for_curaçao 1F1E8-1F1FE=cyprus|flag_for_cyprus",
   "1F1E8-1F1FF=czechia|flag_for_czech_republic 1F1E8-1F1EE=côte_d’ivoire|flag_for_côte_d’ivoire",
   "1F1E9-1F1F0=denmark|flag_for_denmark 1F1E9-1F1EC=diego_garcia|flag_for_diego_garcia",
   "1F1E9-1F1EF=djibouti|flag_for_djibouti 1F1E9-1F1F2=dominica|flag_for_dominica",
   "1F1E9-1F1F4=dominican_republic|flag_for_dominican_republic 1F51A=end_arrow|end",
   "1F1EA-1F1E8=ecuador|flag_for_ecuador 1F1EA-1F1EC=egypt|flag_for_egypt",
   "1F1F8-1F1FB=el_salvador|flag_for_el_salvador",
   "1F3F4-E0067-E0062-E0065-E006E-E0067-E007F=england",
   "1F1EC-1F1F6=equatorial_guinea|flag_for_equatorial_guinea",
   "1F1EA-1F1F7=eritrea|flag_for_eritrea 1F1EA-1F1EA=estonia|flag_for_estonia",
   "1F1EA-1F1F9=ethiopia|flag_for_ethiopia 1F1EA-1F1FA=european_union|flag_for_european_union",
   "1F193=free_button|free 1F1EB-1F1F0=falkland_islands|flag_for_falkland_islands",
   "1F1EB-1F1F4=faroe_islands|flag_for_faroe_islands 1F1EB-1F1EF=fiji|flag_for_fiji",
   "1F1EB-1F1EE=finland|flag_for_finland 1F1EB-1F1F7=france|flag_for_france",
   "1F1EC-1F1EB=french_guiana|flag_for_french_guiana",
   "1F1F5-1F1EB=french_polynesia|flag_for_french_polynesia",
   "1F1F9-1F1EB=french_southern_territories|flag_for_french_southern_territories",
   "1F1EC-1F1E6=gabon|flag_for_gabon 1F1EC-1F1F2=gambia|flag_for_gambia 264A=gemini",
   "1F1EC-1F1EA=georgia|flag_for_georgia 1F1E9-1F1EA=germany|flag_for_germany",
   "1F1EC-1F1ED=ghana|flag_for_ghana 1F1EC-1F1EE=gibraltar|flag_for_gibraltar",
   "1F1EC-1F1F7=greece|flag_for_greece 1F1EC-1F1F1=greenland|flag_for_greenland",
   "1F1EC-1F1E9=grenada|flag_for_grenada 1F1EC-1F1F5=guadeloupe|flag_for_guadeloupe",
   "1F1EC-1F1FA=guam|flag_for_guam 1F1EC-1F1F9=guatemala|flag_for_guatemala",
   "1F1EC-1F1EC=guernsey|flag_for_guernsey 1F1EC-1F1F3=guinea|flag_for_guinea",
   "1F1EC-1F1FC=guinea-bissau|flag_for_guinea__bissau 1F1EC-1F1FE=guyana|flag_for_guyana",
   "1F1ED-1F1F9=haiti|flag_for_haiti",
   "1F1ED-1F1F2=heard_&_mcdonald_islands|flag_for_heard_&_mcdonald_islands",
   "1F1ED-1F1F3=honduras|flag_for_honduras 1F1ED-1F1F0=hong_kong_sar_china|flag_for_hong_kong",
   "1F1ED-1F1FA=hungary|flag_for_hungary 1F194=id_button|id 1F1EE-1F1F8=iceland|flag_for_iceland",
   "1F1EE-1F1F3=india|flag_for_india 1F1EE-1F1E9=indonesia|flag_for_indonesia",
   "1F1EE-1F1F7=iran|flag_for_iran 1F1EE-1F1F6=iraq|flag_for_iraq",
   "1F1EE-1F1EA=ireland|flag_for_ireland 1F1EE-1F1F2=isle_of_man|flag_for_isle_of_man",
   "1F1EE-1F1F1=israel|flag_for_israel 1F1EE-1F1F9=italy|flag_for_italy",
   "1F1EF-1F1F2=jamaica|flag_for_jamaica 1F5FE=japan|map_of_japan",
   "1F251=japanese_acceptable_button|accept 1F238=japanese_application_button|u7533",
   "1F250=japanese_bargain_button|ideograph_advantage 1F3EF=japanese_castle",
   "3297=japanese_congratulations_button|congratulations 1F239=japanese_discount_button|u5272",
   "1F38E=japanese_dolls|dolls 1F21A=japanese_free_of_charge_button|u7121",
   "1F201=japanese_here_button|koko 1F237=japanese_monthly_amount_button|u6708",
   "1F235=japanese_no_vacancy_button|u6e80 1F236=japanese_not_free_of_charge_button|u6709",
   "1F23A=japanese_open_for_business_button|u55b6 1F234=japanese_passing_grade_button|u5408",
   "1F3E3=japanese_post_office|post_office 1F232=japanese_prohibited_button|u7981",
   "1F22F=japanese_reserved_button|u6307 3299=japanese_secret_button|secret",
   "1F202=japanese_service_charge_button|sa 1F530=japanese_symbol_for_beginner|beginner",
   "1F233=japanese_vacancy_button|u7a7a 1F1EF-1F1EA=jersey|flag_for_jersey",
   "1F1EF-1F1F4=jordan|flag_for_jordan 1F1F0-1F1FF=kazakhstan|flag_for_kazakhstan",
   "1F1F0-1F1EA=kenya|flag_for_kenya 1F1F0-1F1EE=kiribati|flag_for_kiribati",
   "1F1FD-1F1F0=kosovo|flag_for_kosovo 1F1F0-1F1FC=kuwait|flag_for_kuwait",
   "1F1F0-1F1EC=kyrgyzstan|flag_for_kyrgyzstan 1F1F1-1F1E6=laos|flag_for_laos",
   "1F1F1-1F1FB=latvia|flag_for_latvia 1F1F1-1F1E7=lebanon|flag_for_lebanon 264C=leo",
   "1F1F1-1F1F8=lesotho|flag_for_lesotho 1F1F1-1F1F7=liberia|flag_for_liberia 264E=libra",
   "1F1F1-1F1FE=libya|flag_for_libya 1F1F1-1F1EE=liechtenstein|flag_for_liechtenstein",
   "1F1F1-1F1F9=lithuania|flag_for_lithuania 1F1F1-1F1FA=luxembourg|flag_for_luxembourg",
   "1F1F2-1F1F4=macau_sar_china|flag_for_macau 1F1F2-1F1F0=macedonia|flag_for_macedonia",
   "1F1F2-1F1EC=madagascar|flag_for_madagascar 1F1F2-1F1FC=malawi|flag_for_malawi",
   "1F1F2-1F1FE=malaysia|flag_for_malaysia 1F1F2-1F1FB=maldives|flag_for_maldives",
   "1F1F2-1F1F1=mali|flag_for_mali 1F1F2-1F1F9=malta|flag_for_malta",
   "1F1F2-1F1ED=marshall_islands|flag_for_marshall_islands",
   "1F1F2-1F1F6=martinique|flag_for_martinique 1F1F2-1F1F7=mauritania|flag_for_mauritania",
   "1F1F2-1F1FA=mauritius|flag_for_mauritius 1F1FE-1F1F9=mayotte|flag_for_mayotte",
   "1F1F2-1F1FD=mexico|flag_for_mexico 1F1EB-1F1F2=micronesia|flag_for_micronesia",
   "1F1F2-1F1E9=moldova|flag_for_moldova 1F1F2-1F1E8=monaco|flag_for_monaco",
   "1F1F2-1F1F3=mongolia|flag_for_mongolia 1F1F2-1F1EA=montenegro|flag_for_montenegro",
   "1F1F2-1F1F8=montserrat|flag_for_montserrat 1F1F2-1F1E6=morocco|flag_for_morocco",
   "1F1F2-1F1FF=mozambique|flag_for_mozambique 1F936=mrs._claus",
   "1F936-1F3FF=mrs._claus_dark_skin_tone 1F936-1F3FB=mrs._claus_light_skin_tone",
   "1F936-1F3FE=mrs._claus_medium-dark_skin_tone 1F936-1F3FC=mrs._claus_medium-light_skin_tone",
   "1F936-1F3FD=mrs._claus_medium_skin_tone 1F1F2-1F1F2=myanmar_(burma)|flag_for_myanmar",
   "1F195=new_button|new 1F196=ng_button|ng 1F1F3-1F1E6=namibia|flag_for_namibia",
   "1F1F3-1F1F7=nauru|flag_for_nauru 1F1F3-1F1F5=nepal|flag_for_nepal",
   "1F1F3-1F1F1=netherlands|flag_for_netherlands",
   "1F1F3-1F1E8=new_caledonia|flag_for_new_caledonia",
   "1F1F3-1F1FF=new_zealand|flag_for_new_zealand 1F1F3-1F1EE=nicaragua|flag_for_nicaragua",
   "1F1F3-1F1EA=niger|flag_for_niger 1F1F3-1F1EC=nigeria|flag_for_nigeria",
   "1F1F3-1F1FA=niue|flag_for_niue 1F1F3-1F1EB=norfolk_island|flag_for_norfolk_island",
   "1F1F0-1F1F5=north_korea|flag_for_north_korea",
   "1F1F2-1F1F5=northern_mariana_islands|flag_for_northern_mariana_islands",
   "1F1F3-1F1F4=norway|flag_for_norway 1F197=ok_button|ok 1F44C=ok_hand",
   "1F44C-1F3FF=ok_hand_dark_skin_tone 1F44C-1F3FB=ok_hand_light_skin_tone",
   "1F44C-1F3FE=ok_hand_medium-dark_skin_tone 1F44C-1F3FC=ok_hand_medium-light_skin_tone",
   "1F44C-1F3FD=ok_hand_medium_skin_tone 1F51B=on!_arrow|on 1F17E=o_button_(blood_type)|o2",
   "1F1F4-1F1F2=oman|flag_for_oman 26CE=ophiuchus 1F17F=p_button|parking",
   "1F1F5-1F1F0=pakistan|flag_for_pakistan 1F1F5-1F1FC=palau|flag_for_palau",
   "1F1F5-1F1F8=palestinian_territories|flag_for_palestinian_territories",
   "1F1F5-1F1E6=panama|flag_for_panama 1F1F5-1F1EC=papua_new_guinea|flag_for_papua_new_guinea",
   "1F1F5-1F1FE=paraguay|flag_for_paraguay 1F1F5-1F1EA=peru|flag_for_peru",
   "1F1F5-1F1ED=philippines|flag_for_philippines 2653=pisces",
   "1F1F5-1F1F3=pitcairn_islands|flag_for_pitcairn_islands 1F1F5-1F1F1=poland|flag_for_poland",
   "1F1F5-1F1F9=portugal|flag_for_portugal 1F1F5-1F1F7=puerto_rico|flag_for_puerto_rico",
   "1F1F6-1F1E6=qatar|flag_for_qatar 1F1F7-1F1F4=romania|flag_for_romania",
   "1F1F7-1F1FA=russia|flag_for_russia 1F1F7-1F1FC=rwanda|flag_for_rwanda",
   "1F1F7-1F1EA=réunion|flag_for_réunion 1F51C=soon_arrow|soon 1F198=sos_button|sos",
   "2650=sagittarius 1F1FC-1F1F8=samoa|flag_for_samoa 1F1F8-1F1F2=san_marino|flag_for_san_marino",
   "1F385=santa_claus|santa 1F385-1F3FF=santa_claus_dark_skin_tone",
   "1F385-1F3FB=santa_claus_light_skin_tone 1F385-1F3FE=santa_claus_medium-dark_skin_tone",
   "1F385-1F3FC=santa_claus_medium-light_skin_tone 1F385-1F3FD=santa_claus_medium_skin_tone",
   "1F1F8-1F1E6=saudi_arabia|flag_for_saudi_arabia 264F=scorpio|scorpius",
   "1F3F4-E0067-E0062-E0073-E0063-E0074-E007F=scotland 1F1F8-1F1F3=senegal|flag_for_senegal",
   "1F1F7-1F1F8=serbia|flag_for_serbia 1F1F8-1F1E8=seychelles|flag_for_seychelles",
   "1F1F8-1F1F1=sierra_leone|flag_for_sierra_leone 1F1F8-1F1EC=singapore|flag_for_singapore",
   "1F1F8-1F1FD=sint_maarten|flag_for_sint_maarten 1F1F8-1F1F0=slovakia|flag_for_slovakia",
   "1F1F8-1F1EE=slovenia|flag_for_slovenia 1F1F8-1F1E7=solomon_islands|flag_for_solomon_islands",
   "1F1F8-1F1F4=somalia|flag_for_somalia 1F1FF-1F1E6=south_africa|flag_for_south_africa",
   "1F1EC-1F1F8=south_georgia_&_south_sandwich_islands"
      ++ "|flag_for_south_georgia_&_south_sandwich_islands",
   "1F1F0-1F1F7=south_korea|flag_for_south_korea 1F1F8-1F1F8=south_sudan|flag_for_south_sudan",
   "1F1EA-1F1F8=spain|flag_for_spain 1F1F1-1F1F0=sri_lanka|flag_for_sri_lanka",
   "1F1E7-1F1F1=st._barthélemy|flag_for_st._barthélemy",
   "1F1F8-1F1ED=st._helena|flag_for_st._helena",
   "1F1F0-1F1F3=st._kitts_&_nevis|flag_for_st._kitts_&_nevis",
   "1F1F1-1F1E8=st._lucia|flag_for_st._lucia 1F1F2-1F1EB=st._martin|flag_for_st._martin",
   "1F1F5-1F1F2=st._pierre_&_miquelon|flag_for_st._pierre_&_miquelon",
   "1F1FB-1F1E8=st._vincent_&_grenadines|flag_for_st._vincent_&_grenadines",
   "1F5FD=statue_of_liberty 1F1F8-1F1E9=sudan|flag_for_sudan",
   "1F1F8-1F1F7=suriname|flag_for_suriname",
   "1F1F8-1F1EF=svalbard_&_jan_mayen|flag_for_svalbard_&_jan_mayen",
   "1F1F8-1F1FF=swaziland|flag_for_swaziland 1F1F8-1F1EA=sweden|flag_for_sweden",
   "1F1E8-1F1ED=switzerland|flag_for_switzerland 1F1F8-1F1FE=syria|flag_for_syria",
   "1F1F8-1F1F9=são_tomé_&_príncipe|flag_for_são_tomé_&_príncipe 1F996=t-rex 1F51D=top_arrow|top",
   "1F1F9-1F1FC=taiwan|flag_for_taiwan 1F1F9-1F1EF=tajikistan|flag_for_tajikistan",
   "1F1F9-1F1FF=tanzania|flag_for_tanzania 2649=taurus 1F1F9-1F1ED=thailand|flag_for_thailand",
   "1F1F9-1F1F1=timor-leste|flag_for_timor__leste 1F1F9-1F1EC=togo|flag_for_togo",
   "1F1F9-1F1F0=tokelau|flag_for_tokelau 1F5FC=tokyo_tower 1F1F9-1F1F4=tonga|flag_for_tonga",
   "1F1F9-1F1F9=trinidad_&_tobago|flag_for_trinidad_&_tobago",
   "1F1F9-1F1E6=tristan_da_cunha|flag_for_tristan_da_cunha 1F1F9-1F1F3=tunisia|flag_for_tunisia",
   "1F983=turkey 1F1F9-1F1F2=turkmenistan|flag_for_turkmenistan",
   "1F1F9-1F1E8=turks_&_caicos_islands|flag_for_turks_&_caicos_islands",
   "1F1F9-1F1FB=tuvalu|flag_for_tuvalu",
   "1F1FA-1F1F2=u.s._outlying_islands|flag_for_u.s._outlying_islands",
   "1F1FB-1F1EE=u.s._virgin_islands|flag_for_u.s._virgin_islands 1F199=up!_button|up",
   "1F1FA-1F1EC=uganda|flag_for_uganda 1F1FA-1F1E6=ukraine|flag_for_ukraine",
   "1F1E6-1F1EA=united_arab_emirates|flag_for_united_arab_emirates",
   "1F1EC-1F1E7=united_kingdom|flag_for_united_kingdom 1F1FA-1F1F3=united_nations",
   "1F1FA-1F1F8=united_states|flag_for_united_states 1F1FA-1F1FE=uruguay|flag_for_uruguay",
   "1F1FA-1F1FF=uzbekistan|flag_for_uzbekistan 1F19A=vs_button|vs",
   "1F1FB-1F1FA=vanuatu|flag_for_vanuatu 1F1FB-1F1E6=vatican_city|flag_for_vatican_city",
   "1F1FB-1F1EA=venezuela|flag_for_venezuela 1F1FB-1F1F3=vietnam|flag_for_vietnam 264D=virgo",
   "1F3F4-E0067-E0062-E0077-E006C-E0073-E007F=wales",
   "1F1FC-1F1EB=wallis_&_futuna|flag_for_wallis_&_futuna",
   "1F1EA-1F1ED=western_sahara|flag_for_western_sahara 1F1FE-1F1EA=yemen|flag_for_yemen",
   "1F1FF-1F1F2=zambia|flag_for_zambia 1F1FF-1F1FC=zimbabwe|flag_for_zimbabwe 1F9EE=abacus",
   "1FA79=adhesive_bandage 1F39F=admission_tickets 1F9D1=adult 1F9D1-1F3FF=adult_dark_skin_tone",
   "1F9D1-1F3FB=adult_light_skin_tone 1F9D1-1F3FE=adult_medium-dark_skin_tone",
   "1F9D1-1F3FC=adult_medium-light_skin_tone 1F9D1-1F3FD=adult_medium_skin_tone",
   "1F6A1=aerial_tramway 2708=airplane 1F6EC=airplane_arrival|airplane_arriving",
   "1F6EB=airplane_departure 23F0=alarm_clock 2697=alembic 1F47D=alien",
   "1F47E=alien_monster|space_invader 1F691=ambulance 1F3C8=american_football|football",
   "1F3FA=amphora 2693=anchor 1F4A2=anger_symbol|anger 1F620=angry_face|angry",
   "1F47F=angry_face_with_horns|imp 1F627=anguished_face|anguished 1F41C=ant",
   "1F4F6=antenna_bars|signal_strength 1F630=anxious_face_with_sweat|cold_sweat",
   "1F69B=articulated_lorry 1F3A8=artist_palette|art 1F632=astonished_face|astonished",
   "269B=atom_symbol 1F6FA=auto_rickshaw 1F697=automobile|car|red_car 1F951=avocado 1FA93=axe",
   "1F476=baby 1F47C=baby_angel|angel 1F47C-1F3FF=baby_angel_dark_skin_tone",
   "1F47C-1F3FB=baby_angel_light_skin_tone 1F47C-1F3FE=baby_angel_medium-dark_skin_tone",
   "1F47C-1F3FC=baby_angel_medium-light_skin_tone 1F47C-1F3FD=baby_angel_medium_skin_tone",
   "1F37C=baby_bottle 1F424=baby_chick 1F476-1F3FF=baby_dark_skin_tone",
   "1F476-1F3FB=baby_light_skin_tone 1F476-1F3FE=baby_medium-dark_skin_tone",
   "1F476-1F3FC=baby_medium-light_skin_tone 1F476-1F3FD=baby_medium_skin_tone 1F6BC=baby_symbol",
   "1F447=backhand_index_pointing_down|point_down",
   "1F447-1F3FF=backhand_index_pointing_down_dark_skin_tone",
   "1F447-1F3FB=backhand_index_pointing_down_light_skin_tone",
   "1F447-1F3FE=backhand_index_pointing_down_medium-dark_skin_tone",
   "1F447-1F3FC=backhand_index_pointing_down_medium-light_skin_tone",
   "1F447-1F3FD=backhand_index_pointing_down_medium_skin_tone",
   "1F448=backhand_index_pointing_left|point_left",
   "1F448-1F3FF=backhand_index_pointing_left_dark_skin_tone",
   "1F448-1F3FB=backhand_index_pointing_left_light_skin_tone",
   "1F448-1F3FE=backhand_index_pointing_left_medium-dark_skin_tone",
   "1F448-1F3FC=backhand_index_pointing_left_medium-light_skin_tone",
   "1F448-1F3FD=backhand_index_pointing_left_medium_skin_tone",
   "1F449=backhand_index_pointing_right|point_right",
   "1F449-1F3FF=backhand_index_pointing_right_dark_skin_tone",
   "1F449-1F3FB=backhand_index_pointing_right_light_skin_tone",
   "1F449-1F3FE=backhand_index_pointing_right_medium-dark_skin_tone",
   "1F449-1F3FC=backhand_index_pointing_right_medium-light_skin_tone",
   "1F449-1F3FD=backhand_index_pointing_right_medium_skin_tone",
   "1F446=backhand_index_pointing_up|point_up_2",
   "1F446-1F3FF=backhand_index_pointing_up_dark_skin_tone",
   "1F446-1F3FB=backhand_index_pointing_up_light_skin_tone",
   "1F446-1F3FE=backhand_index_pointing_up_medium-dark_skin_tone",
   "1F446-1F3FC=backhand_index_pointing_up_medium-light_skin_tone",
   "1F446-1F3FD=backhand_index_pointing_up_medium_skin_tone 1F953=bacon 1F9A1=badger",
   "1F3F8=badminton|badminton_racquet_and_shuttlecock 1F96F=bagel 1F6C4=baggage_claim",
   "1F956=baguette_bread 2696=balance_scale|scales 1F9B2=bald 1F468-200D-1F9B2=bald_man",
   "1F469-200D-1F9B2=bald_woman 1FA70=ballet_shoes 1F388=balloon 1F5F3=ballot_box_with_ballot",
   "2611=ballot_box_with_check 1F34C=banana 1FA95=banjo 1F3E6=bank 1F4CA=bar_chart",
   "1F488=barber_pole|barber 26BE=baseball 1F9FA=basket 1F3C0=basketball 1F987=bat 1F6C1=bathtub",
   "1F50B=battery 1F3D6=beach_with_umbrella 1F601=beaming_face_with_smiling_eyes|grin",
   "1F43B=bear_face|bear 1F9D4=bearded_person 1F9D4-1F3FF=bearded_person_dark_skin_tone",
   "1F9D4-1F3FB=bearded_person_light_skin_tone 1F9D4-1F3FE=bearded_person_medium-dark_skin_tone",
   "1F9D4-1F3FC=bearded_person_medium-light_skin_tone",
   "1F9D4-1F3FD=bearded_person_medium_skin_tone 1F493=beating_heart|heartbeat 1F6CF=bed",
   "1F37A=beer_mug|beer 1F514=bell 1F515=bell_with_slash|no_bell 1F6CE=bellhop_bell",
   "1F371=bento_box|bento 1F9C3=beverage_box 1F6B2=bicycle|bike 1F459=bikini 1F9E2=billed_cap",
   "2623=biohazard|biohazard_sign 1F426=bird 1F382=birthday_cake|birthday 26AB=black_circle",
   "1F3F4=black_flag|waving_black_flag 1F5A4=black_heart 2B1B=black_large_square",
   "25FE=black_medium-small_square|black_medium_small_square 25FC=black_medium_square",
   "2712=black_nib 25AA=black_small_square 1F532=black_square_button",
   "1F471-200D-2642-FE0F=blond-haired_man",
   "1F471-1F3FF-200D-2642-FE0F=blond-haired_man_dark_skin_tone",
   "1F471-1F3FB-200D-2642-FE0F=blond-haired_man_light_skin_tone",
   "1F471-1F3FE-200D-2642-FE0F=blond-haired_man_medium-dark_skin_tone",
   "1F471-1F3FC-200D-2642-FE0F=blond-haired_man_medium-light_skin_tone",
   "1F471-1F3FD-200D-2642-FE0F=blond-haired_man_medium_skin_tone",
   "1F471=blond-haired_person|person_with_blond_hair",
   "1F471-1F3FF=blond-haired_person_dark_skin_tone",
   "1F471-1F3FB=blond-haired_person_light_skin_tone",
   "1F471-1F3FE=blond-haired_person_medium-dark_skin_tone",
   "1F471-1F3FC=blond-haired_person_medium-light_skin_tone",
   "1F471-1F3FD=blond-haired_person_medium_skin_tone 1F471-200D-2640-FE0F=blond-haired_woman",
   "1F471-1F3FF-200D-2640-FE0F=blond-haired_woman_dark_skin_tone",
   "1F471-1F3FB-200D-2640-FE0F=blond-haired_woman_light_skin_tone",
   "1F471-1F3FE-200D-2640-FE0F=blond-haired_woman_medium-dark_skin_tone",
   "1F471-1F3FC-200D-2640-FE0F=blond-haired_woman_medium-light_skin_tone",
   "1F471-1F3FD-200D-2640-FE0F=blond-haired_woman_medium_skin_tone 1F33C=blossom 1F421=blowfish",
   "1F4D8=blue_book 1F535=blue_circle|large_blue_circle 1F499=blue_heart 1F7E6=blue_square",
   "1F417=boar 1F4A3=bomb 1F9B4=bone 1F516=bookmark 1F4D1=bookmark_tabs 1F4DA=books",
   "1F37E=bottle_with_popping_cork 1F490=bouquet 1F3F9=bow_and_arrow 1F963=bowl_with_spoon",
   "1F3B3=bowling 1F94A=boxing_glove 1F466=boy 1F466-1F3FF=boy_dark_skin_tone",
   "1F466-1F3FB=boy_light_skin_tone 1F466-1F3FE=boy_medium-dark_skin_tone",
   "1F466-1F3FC=boy_medium-light_skin_tone 1F466-1F3FD=boy_medium_skin_tone 1F9E0=brain",
   "1F35E=bread 1F931=breast-feeding 1F931-1F3FF=breast-feeding_dark_skin_tone",
   "1F931-1F3FB=breast-feeding_light_skin_tone 1F931-1F3FE=breast-feeding_medium-dark_skin_tone",
   "1F931-1F3FC=breast-feeding_medium-light_skin_tone",
   "1F931-1F3FD=breast-feeding_medium_skin_tone 1F9F1=brick 1F470=bride_with_veil",
   "1F470-1F3FF=bride_with_veil_dark_skin_tone 1F470-1F3FB=bride_with_veil_light_skin_tone",
   "1F470-1F3FE=bride_with_veil_medium-dark_skin_tone",
   "1F470-1F3FC=bride_with_veil_medium-light_skin_tone",
   "1F470-1F3FD=bride_with_veil_medium_skin_tone 1F309=bridge_at_night 1F4BC=briefcase",
   "1FA72=briefs 1F506=bright_button|high_brightness 1F966=broccoli 1F494=broken_heart",
   "1F9F9=broom 1F7E4=brown_circle 1F90E=brown_heart 1F7EB=brown_square 1F41B=bug",
   "1F3D7=building_construction 1F685=bullet_train|bullettrain_front 1F32F=burrito 1F68C=bus",
   "1F68F=bus_stop|busstop 1F464=bust_in_silhouette 1F465=busts_in_silhouette 1F9C8=butter",
   "1F98B=butterfly 1F335=cactus 1F4C6=calendar|tear-off_calendar 1F919=call_me_hand",
   "1F919-1F3FF=call_me_hand_dark_skin_tone 1F919-1F3FB=call_me_hand_light_skin_tone",
   "1F919-1F3FE=call_me_hand_medium-dark_skin_tone",
   "1F919-1F3FC=call_me_hand_medium-light_skin_tone 1F919-1F3FD=call_me_hand_medium_skin_tone",
   "1F42B=camel|two-hump_camel 1F4F7=camera 1F4F8=camera_with_flash 1F3D5=camping 1F56F=candle",
   "1F36C=candy 1F96B=canned_food 1F6F6=canoe 1F5C3=card_file_box 1F4C7=card_index",
   "1F5C2=card_index_dividers 1F3A0=carousel_horse 1F38F=carp_streamer|flags 1F955=carrot",
   "1F3F0=castle|european_castle 1F431=cat|cat_face 1F639=cat_face_with_tears_of_joy|joy_cat",
   "1F63C=cat_face_with_wry_smile|smirk_cat 26D3=chains 1FA91=chair",
   "1F4C9=chart_decreasing|chart_with_downwards_trend",
   "1F4C8=chart_increasing|chart_with_upwards_trend 1F4B9=chart_increasing_with_yen|chart",
   "1F9C0=cheese_wedge 1F3C1=chequered_flag|checkered_flag 1F352=cherries 1F338=cherry_blossom",
   "265F=chess_pawn 1F330=chestnut 1F414=chicken 1F9D2=child 1F9D2-1F3FF=child_dark_skin_tone",
   "1F9D2-1F3FB=child_light_skin_tone 1F9D2-1F3FE=child_medium-dark_skin_tone",
   "1F9D2-1F3FC=child_medium-light_skin_tone 1F9D2-1F3FD=child_medium_skin_tone",
   "1F6B8=children_crossing 1F43F=chipmunk 1F36B=chocolate_bar 1F962=chopsticks 26EA=church",
   "1F6AC=cigarette|smoking 1F3A6=cinema 24C2=circled_m|m 1F3AA=circus_tent 1F3D9=cityscape",
   "1F306=cityscape_at_dusk|city_sunset 1F5DC=clamp|compression 1F3AC=clapper_board|clapper",
   "1F44F=clapping_hands|clap 1F44F-1F3FF=clapping_hands_dark_skin_tone",
   "1F44F-1F3FB=clapping_hands_light_skin_tone 1F44F-1F3FE=clapping_hands_medium-dark_skin_tone",
   "1F44F-1F3FC=clapping_hands_medium-light_skin_tone",
   "1F44F-1F3FD=clapping_hands_medium_skin_tone 1F3DB=classical_building",
   "1F37B=clinking_beer_mugs|beers 1F942=clinking_glasses 1F4CB=clipboard",
   "1F503=clockwise_vertical_arrows|arrows_clockwise 1F4D5=closed_book",
   "1F4EA=closed_mailbox_with_lowered_flag|mailbox_closed",
   "1F4EB=closed_mailbox_with_raised_flag|mailbox 1F302=closed_umbrella 2601=cloud",
   "1F329=cloud_with_lightning 26C8=cloud_with_lightning_and_rain|thunder_cloud_and_rain",
   "1F327=cloud_with_rain 1F328=cloud_with_snow 1F921=clown_face 2663=club_suit|clubs",
   "1F45D=clutch_bag|pouch 1F9E5=coat 1F378=cocktail_glass|cocktail 1F965=coconut 26B0=coffin",
   "1F976=cold_face 1F4A5=collision|boom 2604=comet 1F9ED=compass 1F4BD=computer_disk|minidisc",
   "1F5B1=computer_mouse|three_button_mouse 1F38A=confetti_ball 1F616=confounded_face|confounded",
   "1F615=confused_face|confused 1F6A7=construction 1F477=construction_worker",
   "1F477-1F3FF=construction_worker_dark_skin_tone",
   "1F477-1F3FB=construction_worker_light_skin_tone",
   "1F477-1F3FE=construction_worker_medium-dark_skin_tone",
   "1F477-1F3FC=construction_worker_medium-light_skin_tone",
   "1F477-1F3FD=construction_worker_medium_skin_tone 1F39B=control_knobs 1F3EA=convenience_store",
   "1F35A=cooked_rice|rice 1F36A=cookie 1F373=cooking|egg A9=copyright 1F6CB=couch_and_lamp",
   "1F504=counterclockwise_arrows_button|arrows_counterclockwise 1F491=couple_with_heart",
   "1F468-200D-2764-FE0F-200D-1F468=couple_with_heart_man_man",
   "1F469-200D-2764-FE0F-200D-1F468=couple_with_heart_woman_man",
   "1F469-200D-2764-FE0F-200D-1F469=couple_with_heart_woman_woman 1F42E=cow|cow_face",
   "1F920=cowboy_hat_face 1F980=crab 1F58D=crayon|lower_left_crayon 1F4B3=credit_card",
   "1F319=crescent_moon 1F997=cricket 1F3CF=cricket_game|cricket_bat_and_ball 1F40A=crocodile",
   "1F950=croissant 274C=cross_mark|x 274E=cross_mark_button|negative_squared_cross_mark",
   "1F91E=crossed_fingers 1F91E-1F3FF=crossed_fingers_dark_skin_tone",
   "1F91E-1F3FB=crossed_fingers_light_skin_tone",
   "1F91E-1F3FE=crossed_fingers_medium-dark_skin_tone",
   "1F91E-1F3FC=crossed_fingers_medium-light_skin_tone",
   "1F91E-1F3FD=crossed_fingers_medium_skin_tone 1F38C=crossed_flags 2694=crossed_swords",
   "1F451=crown 1F63F=crying_cat_face 1F622=crying_face|cry 1F52E=crystal_ball 1F952=cucumber",
   "1F9C1=cupcake 1F964=cup_with_straw 1F94C=curling_stone 1F9B1=curly_hair",
   "1F468-200D-1F9B1=curly-haired_man 1F469-200D-1F9B1=curly-haired_woman 27B0=curly_loop",
   "1F4B1=currency_exchange 1F35B=curry_rice|curry 1F36E=custard 1F6C3=customs 1F969=cut_of_meat",
   "1F300=cyclone 1F5E1=dagger|dagger_knife 1F361=dango 1F4A8=dashing_away|dash",
   "1F9CF=deaf_person 1F333=deciduous_tree 1F98C=deer 1F69A=delivery_truck|truck",
   "1F3EC=department_store 1F3DA=derelict_house|derelict_house_building 1F3DC=desert",
   "1F3DD=desert_island 1F5A5=desktop_computer 1F575=detective|sleuth_or_spy",
   "1F575-1F3FF=detective_dark_skin_tone 1F575-1F3FB=detective_light_skin_tone",
   "1F575-1F3FE=detective_medium-dark_skin_tone 1F575-1F3FC=detective_medium-light_skin_tone",
   "1F575-1F3FD=detective_medium_skin_tone 2666=diamond_suit|diamonds",
   "1F4A0=diamond_with_a_dot|diamond_shape_with_a_dot_inside 1F505=dim_button|low_brightness",
   "1F3AF=direct_hit|dart 1F61E=disappointed_face|disappointed 1F93F=diving_mask 1FA94=diya_lamp",
   "1F4AB=dizzy 1F635=dizzy_face 1F9EC=dna 1F436=dog|dog_face 1F4B5=dollar_banknote|dollar",
   "1F42C=dolphin|flipper 1F6AA=door 1F52F=dotted_six-pointed_star|six_pointed_star",
   "27BF=double_curly_loop|loop 203C=double_exclamation_mark|bangbang 1F369=doughnut",
   "1F54A=dove|dove_of_peace 2199=down-left_arrow|arrow_lower_left",
   "2198=down-right_arrow|arrow_lower_right 2B07=down_arrow|arrow_down",
   "1F613=downcast_face_with_sweat|sweat 1F53D=downwards_button|arrow_down_small 1F409=dragon",
   "1F432=dragon_face 1F457=dress 1F924=drooling_face 1FA78=drop_of_blood 1F4A7=droplet",
   "1F941=drum 1F986=duck 1F95F=dumpling 1F4C0=dvd 1F4E7=e-mail|e__mail 1F985=eagle 1F442=ear",
   "1F442-1F3FF=ear_dark_skin_tone 1F442-1F3FB=ear_light_skin_tone",
   "1F442-1F3FE=ear_medium-dark_skin_tone 1F442-1F3FC=ear_medium-light_skin_tone",
   "1F442-1F3FD=ear_medium_skin_tone 1F33D=ear_of_corn|corn 1F9BB=ear_with_hearing_aid",
   "1F346=eggplant 2734=eight-pointed_star|eight_pointed_black_star",
   "2733=eight-spoked_asterisk|eight_spoked_asterisk 1F563=eight-thirty|clock830",
   "1F557=eight_o’clock|clock8 23CF=eject_button|eject_symbol 1F50C=electric_plug 1F418=elephant",
   "1F566=eleven-thirty|clock1130 1F55A=eleven_o’clock|clock11 1F9DD=elf",
   "1F9DD-1F3FF=elf_dark_skin_tone 1F9DD-1F3FB=elf_light_skin_tone",
   "1F9DD-1F3FE=elf_medium-dark_skin_tone 1F9DD-1F3FC=elf_medium-light_skin_tone",
   "1F9DD-1F3FD=elf_medium_skin_tone 2709=envelope|email 1F4E9=envelope_with_arrow",
   "1F4B6=euro_banknote|euro 1F332=evergreen_tree 1F411=ewe|sheep",
   "2757=exclamation_mark|exclamation|heavy_exclamation_mark",
   "2049=exclamation_question_mark|interrobang 1F92F=exploding_head",
   "1F611=expressionless_face|expressionless 1F441=eye",
   "1F441-FE0F-200D-1F5E8-FE0F=eye_in_speech_bubble 1F440=eyes",
   "1F618=face_blowing_a_kiss|kissing_heart 1F60B=face_savoring_food|yum",
   "1F631=face_screaming_in_fear|scream 1F92E=face_vomiting 1F92D=face_with_hand_over_mouth",
   "1F915=face_with_head-bandage|face_with_head__bandage 1F637=face_with_medical_mask|mask",
   "1F9D0=face_with_monocle 1F62E=face_with_open_mouth|open_mouth 1F928=face_with_raised_eyebrow",
   "1F644=face_with_rolling_eyes 1F624=face_with_steam_from_nose|triumph",
   "1F92C=face_with_symbols_on_mouth 1F602=face_with_tears_of_joy|joy",
   "1F912=face_with_thermometer 1F61B=face_with_tongue|stuck_out_tongue",
   "1F636=face_without_mouth|no_mouth 1F3ED=factory 1F9DA=fairy 1F9DA-1F3FF=fairy_dark_skin_tone",
   "1F9DA-1F3FB=fairy_light_skin_tone 1F9DA-1F3FE=fairy_medium-dark_skin_tone",
   "1F9DA-1F3FC=fairy_medium-light_skin_tone 1F9DA-1F3FD=fairy_medium_skin_tone 1F9C6=falafel",
   "1F342=fallen_leaf 1F46A=family 1F468-200D-1F466=family_man_boy",
   "1F468-200D-1F466-200D-1F466=family_man_boy_boy 1F468-200D-1F467=family_man_girl",
   "1F468-200D-1F467-200D-1F466=family_man_girl_boy",
   "1F468-200D-1F467-200D-1F467=family_man_girl_girl",
   "1F468-200D-1F468-200D-1F466=family_man_man_boy",
   "1F468-200D-1F468-200D-1F466-200D-1F466=family_man_man_boy_boy",
   "1F468-200D-1F468-200D-1F467=family_man_man_girl",
   "1F468-200D-1F468-200D-1F467-200D-1F466=family_man_man_girl_boy",
   "1F468-200D-1F468-200D-1F467-200D-1F467=family_man_man_girl_girl",
   "1F468-200D-1F469-200D-1F466=family_man_woman_boy",
   "1F468-200D-1F469-200D-1F466-200D-1F466=family_man_woman_boy_boy",
   "1F468-200D-1F469-200D-1F467=family_man_woman_girl",
   "1F468-200D-1F469-200D-1F467-200D-1F466=family_man_woman_girl_boy",
   "1F468-200D-1F469-200D-1F467-200D-1F467=family_man_woman_girl_girl",
   "1F469-200D-1F466=family_woman_boy 1F469-200D-1F466-200D-1F466=family_woman_boy_boy",
   "1F469-200D-1F467=family_woman_girl 1F469-200D-1F467-200D-1F466=family_woman_girl_boy",
   "1F469-200D-1F467-200D-1F467=family_woman_girl_girl",
   "1F469-200D-1F469-200D-1F466=family_woman_woman_boy",
   "1F469-200D-1F469-200D-1F466-200D-1F466=family_woman_woman_boy_boy",
   "1F469-200D-1F469-200D-1F467=family_woman_woman_girl",
   "1F469-200D-1F469-200D-1F467-200D-1F466=family_woman_woman_girl_boy",
   "1F469-200D-1F469-200D-1F467-200D-1F467=family_woman_woman_girl_girl",
   "23E9=fast-forward_button|fast_forward 23EC=fast_down_button|arrow_double_down",
   "23EA=fast_reverse_button|rewind 23EB=fast_up_button|arrow_double_up 1F4E0=fax_machine|fax",
   "1F628=fearful_face|fearful 2640=female_sign 1F3A1=ferris_wheel 26F4=ferry",
   "1F3D1=field_hockey|field_hockey_stick_and_ball 1F5C4=file_cabinet 1F4C1=file_folder",
   "1F39E=film_frames 1F4FD=film_projector 1F525=fire 1F9EF=fire_extinguisher 1F9E8=firecracker",
   "1F692=fire_engine 1F386=fireworks 1F313=first_quarter_moon",
   "1F31B=first_quarter_moon_face|first_quarter_moon_with_face 1F41F=fish",
   "1F365=fish_cake_with_swirl|fish_cake 1F3A3=fishing_pole|fishing_pole_and_fish",
   "1F560=five-thirty|clock530 1F554=five_o’clock|clock5 26F3=flag_in_hole|golf 1F9A9=flamingo",
   "1F526=flashlight 1F97F=flat_shoe 269C=fleur-de-lis|fleur__de__lis 1F4AA=flexed_biceps|muscle",
   "1F4AA-1F3FF=flexed_biceps_dark_skin_tone 1F4AA-1F3FB=flexed_biceps_light_skin_tone",
   "1F4AA-1F3FE=flexed_biceps_medium-dark_skin_tone",
   "1F4AA-1F3FC=flexed_biceps_medium-light_skin_tone 1F4AA-1F3FD=flexed_biceps_medium_skin_tone",
   "1F4BE=floppy_disk 1F3B4=flower_playing_cards 1F633=flushed_face|flushed 1F94F=flying_disc",
   "1F6F8=flying_saucer 1F32B=fog 1F301=foggy 1F64F=folded_hands|pray",
   "1F64F-1F3FF=folded_hands_dark_skin_tone 1F64F-1F3FB=folded_hands_light_skin_tone",
   "1F64F-1F3FE=folded_hands_medium-dark_skin_tone",
   "1F64F-1F3FC=folded_hands_medium-light_skin_tone 1F64F-1F3FD=folded_hands_medium_skin_tone",
   "1F9B6=foot 1F463=footprints 1F374=fork_and_knife 1F37D=fork_and_knife_with_plate",
   "1F960=fortune_cookie 26F2=fountain 1F58B=fountain_pen|lower_left_fountain_pen",
   "1F55F=four-thirty|clock430 1F340=four_leaf_clover 1F553=four_o’clock|clock4 1F98A=fox_face",
   "1F5BC=framed_picture|frame_with_picture 1F35F=french_fries|fries 1F364=fried_shrimp",
   "1F438=frog_face|frog 1F425=front-facing_baby_chick|hatched_chick",
   "2639=frowning_face|white_frowning_face 1F626=frowning_face_with_open_mouth|frowning",
   "26FD=fuel_pump|fuelpump 1F315=full_moon 1F31D=full_moon_face|full_moon_with_face",
   "26B1=funeral_urn 1F3B2=game_die 1F9C4=garlic 2699=gear 1F48E=gem_stone|gem 1F9DE=genie",
   "1F47B=ghost 1F992=giraffe 1F467=girl 1F467-1F3FF=girl_dark_skin_tone",
   "1F467-1F3FB=girl_light_skin_tone 1F467-1F3FE=girl_medium-dark_skin_tone",
   "1F467-1F3FC=girl_medium-light_skin_tone 1F467-1F3FD=girl_medium_skin_tone",
   "1F95B=glass_of_milk 1F453=glasses|eyeglasses 1F30E=globe_showing_americas|earth_americas",
   "1F30F=globe_showing_asia-australia|earth_asia 1F30D=globe_showing_europe-africa|earth_africa",
   "1F310=globe_with_meridians 1F9E4=gloves 1F31F=glowing_star|star2 1F945=goal_net 1F410=goat",
   "1F47A=goblin|japanese_goblin 1F97D=goggles 1F98D=gorilla 1F393=graduation_cap|mortar_board",
   "1F347=grapes 1F34F=green_apple 1F4D7=green_book 1F7E2=green_circle 1F49A=green_heart",
   "1F957=green_salad 1F7E9=green_square 1F62C=grimacing_face|grimacing",
   "1F63A=grinning_cat_face|smiley_cat 1F638=grinning_cat_face_with_smiling_eyes|smile_cat",
   "1F600=grinning_face|grinning 1F603=grinning_face_with_big_eyes|smiley",
   "1F604=grinning_face_with_smiling_eyes|smile 1F605=grinning_face_with_sweat|sweat_smile",
   "1F606=grinning_squinting_face|laughing|satisfied 1F497=growing_heart|heartpulse",
   "1F482=guard|guardsman 1F482-1F3FF=guard_dark_skin_tone 1F482-1F3FB=guard_light_skin_tone",
   "1F482-1F3FE=guard_medium-dark_skin_tone 1F482-1F3FC=guard_medium-light_skin_tone",
   "1F482-1F3FD=guard_medium_skin_tone 1F9AE=guide_dog 1F3B8=guitar 1F354=hamburger 1F528=hammer",
   "2692=hammer_and_pick 1F6E0=hammer_and_wrench 1F439=hamster_face|hamster",
   "1F590=hand_with_fingers_splayed|raised_hand_with_fingers_splayed",
   "1F590-1F3FF=hand_with_fingers_splayed_dark_skin_tone",
   "1F590-1F3FB=hand_with_fingers_splayed_light_skin_tone",
   "1F590-1F3FE=hand_with_fingers_splayed_medium-dark_skin_tone",
   "1F590-1F3FC=hand_with_fingers_splayed_medium-light_skin_tone",
   "1F590-1F3FD=hand_with_fingers_splayed_medium_skin_tone 1F45C=handbag 1F91D=handshake",
   "1F423=hatching_chick 1F3A7=headphone|headphones 1F649=hear-no-evil_monkey|hear_no_evil",
   "1F49F=heart_decoration 2665=heart_suit|hearts 1F498=heart_with_arrow|cupid",
   "1F49D=heart_with_ribbon|gift_heart 2714=heavy_check_mark 2797=heavy_division_sign",
   "1F4B2=heavy_dollar_sign 2763=heavy_heart_exclamation|heavy_heart_exclamation_mark_ornament",
   "2B55=heavy_large_circle|o 2796=heavy_minus_sign 2716=heavy_multiplication_x",
   "2795=heavy_plus_sign 1F994=hedgehog 1F681=helicopter 1F33F=herb 1F33A=hibiscus",
   "1F460=high-heeled_shoe|high_heel 1F684=high-speed_train|bullettrain_side",
   "26A1=high_voltage|zap 1F97E=hiking_boot 1F6D5=hindu_temple 1F99B=hippopotamus 1F573=hole",
   "1F36F=honey_pot 1F41D=honeybee|bee 1F6A5=horizontal_traffic_light|traffic_light",
   "1F434=horse|horse_face 1F3C7=horse_racing 1F3C7-1F3FF=horse_racing_dark_skin_tone",
   "1F3C7-1F3FB=horse_racing_light_skin_tone 1F3C7-1F3FE=horse_racing_medium-dark_skin_tone",
   "1F3C7-1F3FC=horse_racing_medium-light_skin_tone 1F3C7-1F3FD=horse_racing_medium_skin_tone",
   "1F3E5=hospital 2615=hot_beverage|coffee 1F32D=hot_dog 1F975=hot_face 1F336=hot_pepper",
   "2668=hot_springs|hotsprings 1F3E8=hotel 231B=hourglass_done|hourglass",
   "23F3=hourglass_not_done|hourglass_flowing_sand 1F3E0=house 1F3E1=house_with_garden",
   "1F3D8=houses|house_buildings 1F917=hugging_face 1F4AF=hundred_points|100",
   "1F62F=hushed_face|hushed 1F9CA=ice 1F368=ice_cream",
   "1F3D2=ice_hockey|ice_hockey_stick_and_puck 26F8=ice_skate 1F4E5=inbox_tray",
   "1F4E8=incoming_envelope 261D=index_pointing_up|point_up",
   "261D-1F3FF=index_pointing_up_dark_skin_tone 261D-1F3FB=index_pointing_up_light_skin_tone",
   "261D-1F3FE=index_pointing_up_medium-dark_skin_tone",
   "261D-1F3FC=index_pointing_up_medium-light_skin_tone",
   "261D-1F3FD=index_pointing_up_medium_skin_tone 267E=infinity",
   "2139=information|information_source 1F524=input_latin_letters|abc",
   "1F521=input_latin_lowercase|abcd 1F520=input_latin_uppercase|capital_abcd",
   "1F522=input_numbers|1234 1F523=input_symbols|symbols 1F383=jack-o-lantern|jack_o_lantern",
   "1F456=jeans 1F9E9=jigsaw 1F0CF=joker|black_joker 1F579=joystick 1F54B=kaaba 1F998=kangaroo",
   "1F511=key 2328=keyboard 23-FE0F-20E3=keycap_# 2A-FE0F-20E3=keycap_*",
   "30-FE0F-20E3=keycap_0|zero 31-FE0F-20E3=keycap_1|one 1F51F=keycap_10|ten",
   "32-FE0F-20E3=keycap_2|two 33-FE0F-20E3=keycap_3|three 34-FE0F-20E3=keycap_4|four",
   "35-FE0F-20E3=keycap_5|five 36-FE0F-20E3=keycap_6|six 37-FE0F-20E3=keycap_7|seven",
   "38-FE0F-20E3=keycap_8|eight 39-FE0F-20E3=keycap_9|nine 1F6F4=kick_scooter 1F458=kimono",
   "1F48B=kiss|kiss_mark 1F468-200D-2764-FE0F-200D-1F48B-200D-1F468=kiss_man_man",
   "1F469-200D-2764-FE0F-200D-1F48B-200D-1F468=kiss_woman_man",
   "1F469-200D-2764-FE0F-200D-1F48B-200D-1F469=kiss_woman_woman",
   "1F63D=kissing_cat_face|kissing_cat 1F617=kissing_face|kissing",
   "1F61A=kissing_face_with_closed_eyes|kissing_closed_eyes",
   "1F619=kissing_face_with_smiling_eyes|kissing_smiling_eyes 1F52A=kitchen_knife|hocho|knife",
   "1FA81=kite 1F95D=kiwi_fruit 1F428=koala 1F97C=lab_coat 1F3F7=label 1F94D=lacrosse",
   "1F41E=lady_beetle|beetle 1F4BB=laptop_computer|computer 1F537=large_blue_diamond",
   "1F536=large_orange_diamond 1F317=last_quarter_moon",
   "1F31C=last_quarter_moon_face|last_quarter_moon_with_face",
   "23EE=last_track_button|black_left__pointing_double_triangle_with_vertical_bar",
   "271D=latin_cross 1F343=leaf_fluttering_in_wind|leaves 1F96C=leafy_green 1F4D2=ledger",
   "1F91B=left-facing_fist 1F91B-1F3FF=left-facing_fist_dark_skin_tone",
   "1F91B-1F3FB=left-facing_fist_light_skin_tone",
   "1F91B-1F3FE=left-facing_fist_medium-dark_skin_tone",
   "1F91B-1F3FC=left-facing_fist_medium-light_skin_tone",
   "1F91B-1F3FD=left-facing_fist_medium_skin_tone 2194=left-right_arrow|left_right_arrow",
   "2B05=left_arrow|arrow_left 21AA=left_arrow_curving_right|arrow_right_hook 1F6C5=left_luggage",
   "1F5E8=left_speech_bubble 1F9B5=leg 1F34B=lemon 1F406=leopard 1F39A=level_slider",
   "1F4A1=light_bulb|bulb 1F688=light_rail 1F517=link 1F587=linked_paperclips 1F981=lion_face",
   "1F484=lipstick 1F6AE=litter_in_bin_sign|put_litter_in_its_place 1F98E=lizard 1F999=llama",
   "1F99E=lobster 1F512=locked|lock 1F510=locked_with_key|closed_lock_with_key",
   "1F50F=locked_with_pen|lock_with_ink_pen 1F682=locomotive|steam_locomotive 1F36D=lollipop",
   "1F9F4=lotion_bottle 1F62D=loudly_crying_face|sob 1F4E2=loudspeaker 1F91F=love-you_gesture",
   "1F91F-1F3FF=love-you_gesture_dark_skin_tone 1F91F-1F3FB=love-you_gesture_light_skin_tone",
   "1F91F-1F3FE=love-you_gesture_medium-dark_skin_tone",
   "1F91F-1F3FC=love-you_gesture_medium-light_skin_tone",
   "1F91F-1F3FD=love-you_gesture_medium_skin_tone 1F3E9=love_hotel 1F48C=love_letter",
   "1F9F3=luggage 1F925=lying_face 1F9D9=mage 1F9D9-1F3FF=mage_dark_skin_tone",
   "1F9D9-1F3FB=mage_light_skin_tone 1F9D9-1F3FE=mage_medium-dark_skin_tone",
   "1F9D9-1F3FC=mage_medium-light_skin_tone 1F9D9-1F3FD=mage_medium_skin_tone 1F9F2=magnet",
   "1F50D=magnifying_glass_tilted_left|mag 1F50E=magnifying_glass_tilted_right|mag_right",
   "1F004=mahjong_red_dragon|mahjong 2642=male_sign 1F468=man",
   "1F46B=man_and_woman_holding_hands|couple 1F468-200D-1F3A8=man_artist",
   "1F468-1F3FF-200D-1F3A8=man_artist_dark_skin_tone",
   "1F468-1F3FB-200D-1F3A8=man_artist_light_skin_tone",
   "1F468-1F3FE-200D-1F3A8=man_artist_medium-dark_skin_tone",
   "1F468-1F3FC-200D-1F3A8=man_artist_medium-light_skin_tone",
   "1F468-1F3FD-200D-1F3A8=man_artist_medium_skin_tone 1F468-200D-1F680=man_astronaut",
   "1F468-1F3FF-200D-1F680=man_astronaut_dark_skin_tone",
   "1F468-1F3FB-200D-1F680=man_astronaut_light_skin_tone",
   "1F468-1F3FE-200D-1F680=man_astronaut_medium-dark_skin_tone",
   "1F468-1F3FC-200D-1F680=man_astronaut_medium-light_skin_tone",
   "1F468-1F3FD-200D-1F680=man_astronaut_medium_skin_tone 1F6B4-200D-2642-FE0F=man_biking",
   "1F6B4-1F3FF-200D-2642-FE0F=man_biking_dark_skin_tone",
   "1F6B4-1F3FB-200D-2642-FE0F=man_biking_light_skin_tone",
   "1F6B4-1F3FE-200D-2642-FE0F=man_biking_medium-dark_skin_tone",
   "1F6B4-1F3FC-200D-2642-FE0F=man_biking_medium-light_skin_tone",
   "1F6B4-1F3FD-200D-2642-FE0F=man_biking_medium_skin_tone",
   "26F9-FE0F-200D-2642-FE0F=man_bouncing_ball",
   "26F9-1F3FF-200D-2642-FE0F=man_bouncing_ball_dark_skin_tone",
   "26F9-1F3FB-200D-2642-FE0F=man_bouncing_ball_light_skin_tone",
   "26F9-1F3FE-200D-2642-FE0F=man_bouncing_ball_medium-dark_skin_tone",
   "26F9-1F3FC-200D-2642-FE0F=man_bouncing_ball_medium-light_skin_tone",
   "26F9-1F3FD-200D-2642-FE0F=man_bouncing_ball_medium_skin_tone 1F647-200D-2642-FE0F=man_bowing",
   "1F647-1F3FF-200D-2642-FE0F=man_bowing_dark_skin_tone",
   "1F647-1F3FB-200D-2642-FE0F=man_bowing_light_skin_tone",
   "1F647-1F3FE-200D-2642-FE0F=man_bowing_medium-dark_skin_tone",
   "1F647-1F3FC-200D-2642-FE0F=man_bowing_medium-light_skin_tone",
   "1F647-1F3FD-200D-2642-FE0F=man_bowing_medium_skin_tone 1F938-200D-2642-FE0F=man_cartwheeling",
   "1F938-1F3FF-200D-2642-FE0F=man_cartwheeling_dark_skin_tone",
   "1F938-1F3FB-200D-2642-FE0F=man_cartwheeling_light_skin_tone",
   "1F938-1F3FE-200D-2642-FE0F=man_cartwheeling_medium-dark_skin_tone",
   "1F938-1F3FC-200D-2642-FE0F=man_cartwheeling_medium-light_skin_tone",
   "1F938-1F3FD-200D-2642-FE0F=man_cartwheeling_medium_skin_tone",
   "1F9D7-200D-2642-FE0F=man_climbing 1F9D7-1F3FF-200D-2642-FE0F=man_climbing_dark_skin_tone",
   "1F9D7-1F3FB-200D-2642-FE0F=man_climbing_light_skin_tone",
   "1F9D7-1F3FE-200D-2642-FE0F=man_climbing_medium-dark_skin_tone",
   "1F9D7-1F3FC-200D-2642-FE0F=man_climbing_medium-light_skin_tone",
   "1F9D7-1F3FD-200D-2642-FE0F=man_climbing_medium_skin_tone",
   "1F477-200D-2642-FE0F=man_construction_worker",
   "1F477-1F3FF-200D-2642-FE0F=man_construction_worker_dark_skin_tone",
   "1F477-1F3FB-200D-2642-FE0F=man_construction_worker_light_skin_tone",
   "1F477-1F3FE-200D-2642-FE0F=man_construction_worker_medium-dark_skin_tone",
   "1F477-1F3FC-200D-2642-FE0F=man_construction_worker_medium-light_skin_tone",
   "1F477-1F3FD-200D-2642-FE0F=man_construction_worker_medium_skin_tone",
   "1F468-200D-1F373=man_cook 1F468-1F3FF-200D-1F373=man_cook_dark_skin_tone",
   "1F468-1F3FB-200D-1F373=man_cook_light_skin_tone",
   "1F468-1F3FE-200D-1F373=man_cook_medium-dark_skin_tone",
   "1F468-1F3FC-200D-1F373=man_cook_medium-light_skin_tone",
   "1F468-1F3FD-200D-1F373=man_cook_medium_skin_tone 1F57A=man_dancing",
   "1F57A-1F3FF=man_dancing_dark_skin_tone 1F57A-1F3FB=man_dancing_light_skin_tone",
   "1F57A-1F3FE=man_dancing_medium-dark_skin_tone 1F57A-1F3FC=man_dancing_medium-light_skin_tone",
   "1F57A-1F3FD=man_dancing_medium_skin_tone 1F468-1F3FF=man_dark_skin_tone",
   "1F575-FE0F-200D-2642-FE0F=man_detective",
   "1F575-1F3FF-200D-2642-FE0F=man_detective_dark_skin_tone",
   "1F575-1F3FB-200D-2642-FE0F=man_detective_light_skin_tone",
   "1F575-1F3FE-200D-2642-FE0F=man_detective_medium-dark_skin_tone",
   "1F575-1F3FC-200D-2642-FE0F=man_detective_medium-light_skin_tone",
   "1F575-1F3FD-200D-2642-FE0F=man_detective_medium_skin_tone 1F9DD-200D-2642-FE0F=man_elf",
   "1F9DD-1F3FF-200D-2642-FE0F=man_elf_dark_skin_tone",
   "1F9DD-1F3FB-200D-2642-FE0F=man_elf_light_skin_tone",
   "1F9DD-1F3FE-200D-2642-FE0F=man_elf_medium-dark_skin_tone",
   "1F9DD-1F3FC-200D-2642-FE0F=man_elf_medium-light_skin_tone",
   "1F9DD-1F3FD-200D-2642-FE0F=man_elf_medium_skin_tone 1F926-200D-2642-FE0F=man_facepalming",
   "1F926-1F3FF-200D-2642-FE0F=man_facepalming_dark_skin_tone",
   "1F926-1F3FB-200D-2642-FE0F=man_facepalming_light_skin_tone",
   "1F926-1F3FE-200D-2642-FE0F=man_facepalming_medium-dark_skin_tone",
   "1F926-1F3FC-200D-2642-FE0F=man_facepalming_medium-light_skin_tone",
   "1F926-1F3FD-200D-2642-FE0F=man_facepalming_medium_skin_tone",
   "1F468-200D-1F3ED=man_factory_worker 1F468-1F3FF-200D-1F3ED=man_factory_worker_dark_skin_tone",
   "1F468-1F3FB-200D-1F3ED=man_factory_worker_light_skin_tone",
   "1F468-1F3FE-200D-1F3ED=man_factory_worker_medium-dark_skin_tone",
   "1F468-1F3FC-200D-1F3ED=man_factory_worker_medium-light_skin_tone",
   "1F468-1F3FD-200D-1F3ED=man_factory_worker_medium_skin_tone 1F9DA-200D-2642-FE0F=man_fairy",
   "1F9DA-1F3FF-200D-2642-FE0F=man_fairy_dark_skin_tone",
   "1F9DA-1F3FB-200D-2642-FE0F=man_fairy_light_skin_tone",
   "1F9DA-1F3FE-200D-2642-FE0F=man_fairy_medium-dark_skin_tone",
   "1F9DA-1F3FC-200D-2642-FE0F=man_fairy_medium-light_skin_tone",
   "1F9DA-1F3FD-200D-2642-FE0F=man_fairy_medium_skin_tone 1F468-200D-1F33E=man_farmer",
   "1F468-1F3FF-200D-1F33E=man_farmer_dark_skin_tone",
   "1F468-1F3FB-200D-1F33E=man_farmer_light_skin_tone",
   "1F468-1F3FE-200D-1F33E=man_farmer_medium-dark_skin_tone",
   "1F468-1F3FC-200D-1F33E=man_farmer_medium-light_skin_tone",
   "1F468-1F3FD-200D-1F33E=man_farmer_medium_skin_tone 1F468-200D-1F692=man_firefighter",
   "1F468-1F3FF-200D-1F692=man_firefighter_dark_skin_tone",
   "1F468-1F3FB-200D-1F692=man_firefighter_light_skin_tone",
   "1F468-1F3FE-200D-1F692=man_firefighter_medium-dark_skin_tone",
   "1F468-1F3FC-200D-1F692=man_firefighter_medium-light_skin_tone",
   "1F468-1F3FD-200D-1F692=man_firefighter_medium_skin_tone 1F64D-200D-2642-FE0F=man_frowning",
   "1F64D-1F3FF-200D-2642-FE0F=man_frowning_dark_skin_tone",
   "1F64D-1F3FB-200D-2642-FE0F=man_frowning_light_skin_tone",
   "1F64D-1F3FE-200D-2642-FE0F=man_frowning_medium-dark_skin_tone",
   "1F64D-1F3FC-200D-2642-FE0F=man_frowning_medium-light_skin_tone",
   "1F64D-1F3FD-200D-2642-FE0F=man_frowning_medium_skin_tone 1F9DE-200D-2642-FE0F=man_genie",
   "1F645-200D-2642-FE0F=man_gesturing_no",
   "1F645-1F3FF-200D-2642-FE0F=man_gesturing_no_dark_skin_tone",
   "1F645-1F3FB-200D-2642-FE0F=man_gesturing_no_light_skin_tone",
   "1F645-1F3FE-200D-2642-FE0F=man_gesturing_no_medium-dark_skin_tone",
   "1F645-1F3FC-200D-2642-FE0F=man_gesturing_no_medium-light_skin_tone",
   "1F645-1F3FD-200D-2642-FE0F=man_gesturing_no_medium_skin_tone",
   "1F646-200D-2642-FE0F=man_gesturing_ok",
   "1F646-1F3FF-200D-2642-FE0F=man_gesturing_ok_dark_skin_tone",
   "1F646-1F3FB-200D-2642-FE0F=man_gesturing_ok_light_skin_tone",
   "1F646-1F3FE-200D-2642-FE0F=man_gesturing_ok_medium-dark_skin_tone",
   "1F646-1F3FC-200D-2642-FE0F=man_gesturing_ok_medium-light_skin_tone",
   "1F646-1F3FD-200D-2642-FE0F=man_gesturing_ok_medium_skin_tone",
   "1F487-200D-2642-FE0F=man_getting_haircut",
   "1F487-1F3FF-200D-2642-FE0F=man_getting_haircut_dark_skin_tone",
   "1F487-1F3FB-200D-2642-FE0F=man_getting_haircut_light_skin_tone",
   "1F487-1F3FE-200D-2642-FE0F=man_getting_haircut_medium-dark_skin_tone",
   "1F487-1F3FC-200D-2642-FE0F=man_getting_haircut_medium-light_skin_tone",
   "1F487-1F3FD-200D-2642-FE0F=man_getting_haircut_medium_skin_tone",
   "1F486-200D-2642-FE0F=man_getting_massage",
   "1F486-1F3FF-200D-2642-FE0F=man_getting_massage_dark_skin_tone",
   "1F486-1F3FB-200D-2642-FE0F=man_getting_massage_light_skin_tone",
   "1F486-1F3FE-200D-2642-FE0F=man_getting_massage_medium-dark_skin_tone",
   "1F486-1F3FC-200D-2642-FE0F=man_getting_massage_medium-light_skin_tone",
   "1F486-1F3FD-200D-2642-FE0F=man_getting_massage_medium_skin_tone",
   "1F3CC-FE0F-200D-2642-FE0F=man_golfing 1F3CC-1F3FF-200D-2642-FE0F=man_golfing_dark_skin_tone",
   "1F3CC-1F3FB-200D-2642-FE0F=man_golfing_light_skin_tone",
   "1F3CC-1F3FE-200D-2642-FE0F=man_golfing_medium-dark_skin_tone",
   "1F3CC-1F3FC-200D-2642-FE0F=man_golfing_medium-light_skin_tone",
   "1F3CC-1F3FD-200D-2642-FE0F=man_golfing_medium_skin_tone 1F482-200D-2642-FE0F=man_guard",
   "1F482-1F3FF-200D-2642-FE0F=man_guard_dark_skin_tone",
   "1F482-1F3FB-200D-2642-FE0F=man_guard_light_skin_tone",
   "1F482-1F3FE-200D-2642-FE0F=man_guard_medium-dark_skin_tone",
   "1F482-1F3FC-200D-2642-FE0F=man_guard_medium-light_skin_tone",
   "1F482-1F3FD-200D-2642-FE0F=man_guard_medium_skin_tone 1F468-200D-2695-FE0F=man_health_worker",
   "1F468-1F3FF-200D-2695-FE0F=man_health_worker_dark_skin_tone",
   "1F468-1F3FB-200D-2695-FE0F=man_health_worker_light_skin_tone",
   "1F468-1F3FE-200D-2695-FE0F=man_health_worker_medium-dark_skin_tone",
   "1F468-1F3FC-200D-2695-FE0F=man_health_worker_medium-light_skin_tone",
   "1F468-1F3FD-200D-2695-FE0F=man_health_worker_medium_skin_tone",
   "1F9D8-200D-2642-FE0F=man_in_lotus_position",
   "1F9D8-1F3FF-200D-2642-FE0F=man_in_lotus_position_dark_skin_tone",
   "1F9D8-1F3FB-200D-2642-FE0F=man_in_lotus_position_light_skin_tone",
   "1F9D8-1F3FE-200D-2642-FE0F=man_in_lotus_position_medium-dark_skin_tone",
   "1F9D8-1F3FC-200D-2642-FE0F=man_in_lotus_position_medium-light_skin_tone",
   "1F9D8-1F3FD-200D-2642-FE0F=man_in_lotus_position_medium_skin_tone",
   "1F468-200D-1F9BD=man_in_manual_wheelchair 1F468-200D-1F9BC=man_in_motorized_wheelchair",
   "1F9D6-200D-2642-FE0F=man_in_steamy_room",
   "1F9D6-1F3FF-200D-2642-FE0F=man_in_steamy_room_dark_skin_tone",
   "1F9D6-1F3FB-200D-2642-FE0F=man_in_steamy_room_light_skin_tone",
   "1F9D6-1F3FE-200D-2642-FE0F=man_in_steamy_room_medium-dark_skin_tone",
   "1F9D6-1F3FC-200D-2642-FE0F=man_in_steamy_room_medium-light_skin_tone",
   "1F9D6-1F3FD-200D-2642-FE0F=man_in_steamy_room_medium_skin_tone",
   "1F574=man_in_suit_levitating|man_in_business_suit_levitating",
   "1F574-1F3FF=man_in_suit_levitating_dark_skin_tone",
   "1F574-1F3FB=man_in_suit_levitating_light_skin_tone",
   "1F574-1F3FE=man_in_suit_levitating_medium-dark_skin_tone",
   "1F574-1F3FC=man_in_suit_levitating_medium-light_skin_tone",
   "1F574-1F3FD=man_in_suit_levitating_medium_skin_tone 1F935=man_in_tuxedo",
   "1F935-1F3FF=man_in_tuxedo_dark_skin_tone 1F935-1F3FB=man_in_tuxedo_light_skin_tone",
   "1F935-1F3FE=man_in_tuxedo_medium-dark_skin_tone",
   "1F935-1F3FC=man_in_tuxedo_medium-light_skin_tone 1F935-1F3FD=man_in_tuxedo_medium_skin_tone",
   "1F468-200D-2696-FE0F=man_judge 1F468-1F3FF-200D-2696-FE0F=man_judge_dark_skin_tone",
   "1F468-1F3FB-200D-2696-FE0F=man_judge_light_skin_tone",
   "1F468-1F3FE-200D-2696-FE0F=man_judge_medium-dark_skin_tone",
   "1F468-1F3FC-200D-2696-FE0F=man_judge_medium-light_skin_tone",
   "1F468-1F3FD-200D-2696-FE0F=man_judge_medium_skin_tone 1F939-200D-2642-FE0F=man_juggling",
   "1F939-1F3FF-200D-2642-FE0F=man_juggling_dark_skin_tone",
   "1F939-1F3FB-200D-2642-FE0F=man_juggling_light_skin_tone",
   "1F939-1F3FE-200D-2642-FE0F=man_juggling_medium-dark_skin_tone",
   "1F939-1F3FC-200D-2642-FE0F=man_juggling_medium-light_skin_tone",
   "1F939-1F3FD-200D-2642-FE0F=man_juggling_medium_skin_tone",
   "1F3CB-FE0F-200D-2642-FE0F=man_lifting_weights",
   "1F3CB-1F3FF-200D-2642-FE0F=man_lifting_weights_dark_skin_tone",
   "1F3CB-1F3FB-200D-2642-FE0F=man_lifting_weights_light_skin_tone",
   "1F3CB-1F3FE-200D-2642-FE0F=man_lifting_weights_medium-dark_skin_tone",
   "1F3CB-1F3FC-200D-2642-FE0F=man_lifting_weights_medium-light_skin_tone",
   "1F3CB-1F3FD-200D-2642-FE0F=man_lifting_weights_medium_skin_tone",
   "1F468-1F3FB=man_light_skin_tone 1F9D9-200D-2642-FE0F=man_mage",
   "1F9D9-1F3FF-200D-2642-FE0F=man_mage_dark_skin_tone",
   "1F9D9-1F3FB-200D-2642-FE0F=man_mage_light_skin_tone",
   "1F9D9-1F3FE-200D-2642-FE0F=man_mage_medium-dark_skin_tone",
   "1F9D9-1F3FC-200D-2642-FE0F=man_mage_medium-light_skin_tone",
   "1F9D9-1F3FD-200D-2642-FE0F=man_mage_medium_skin_tone 1F468-200D-1F527=man_mechanic",
   "1F468-1F3FF-200D-1F527=man_mechanic_dark_skin_tone",
   "1F468-1F3FB-200D-1F527=man_mechanic_light_skin_tone",
   "1F468-1F3FE-200D-1F527=man_mechanic_medium-dark_skin_tone",
   "1F468-1F3FC-200D-1F527=man_mechanic_medium-light_skin_tone",
   "1F468-1F3FD-200D-1F527=man_mechanic_medium_skin_tone 1F468-1F3FE=man_medium-dark_skin_tone",
   "1F468-1F3FC=man_medium-light_skin_tone 1F468-1F3FD=man_medium_skin_tone",
   "1F6B5-200D-2642-FE0F=man_mountain_biking",
   "1F6B5-1F3FF-200D-2642-FE0F=man_mountain_biking_dark_skin_tone",
   "1F6B5-1F3FB-200D-2642-FE0F=man_mountain_biking_light_skin_tone",
   "1F6B5-1F3FE-200D-2642-FE0F=man_mountain_biking_medium-dark_skin_tone",
   "1F6B5-1F3FC-200D-2642-FE0F=man_mountain_biking_medium-light_skin_tone",
   "1F6B5-1F3FD-200D-2642-FE0F=man_mountain_biking_medium_skin_tone",
   "1F468-200D-1F4BC=man_office_worker 1F468-1F3FF-200D-1F4BC=man_office_worker_dark_skin_tone",
   "1F468-1F3FB-200D-1F4BC=man_office_worker_light_skin_tone",
   "1F468-1F3FE-200D-1F4BC=man_office_worker_medium-dark_skin_tone",
   "1F468-1F3FC-200D-1F4BC=man_office_worker_medium-light_skin_tone",
   "1F468-1F3FD-200D-1F4BC=man_office_worker_medium_skin_tone 1F468-200D-2708-FE0F=man_pilot",
   "1F468-1F3FF-200D-2708-FE0F=man_pilot_dark_skin_tone",
   "1F468-1F3FB-200D-2708-FE0F=man_pilot_light_skin_tone",
   "1F468-1F3FE-200D-2708-FE0F=man_pilot_medium-dark_skin_tone",
   "1F468-1F3FC-200D-2708-FE0F=man_pilot_medium-light_skin_tone",
   "1F468-1F3FD-200D-2708-FE0F=man_pilot_medium_skin_tone",
   "1F93E-200D-2642-FE0F=man_playing_handball",
   "1F93E-1F3FF-200D-2642-FE0F=man_playing_handball_dark_skin_tone",
   "1F93E-1F3FB-200D-2642-FE0F=man_playing_handball_light_skin_tone",
   "1F93E-1F3FE-200D-2642-FE0F=man_playing_handball_medium-dark_skin_tone",
   "1F93E-1F3FC-200D-2642-FE0F=man_playing_handball_medium-light_skin_tone",
   "1F93E-1F3FD-200D-2642-FE0F=man_playing_handball_medium_skin_tone",
   "1F93D-200D-2642-FE0F=man_playing_water_polo",
   "1F93D-1F3FF-200D-2642-FE0F=man_playing_water_polo_dark_skin_tone",
   "1F93D-1F3FB-200D-2642-FE0F=man_playing_water_polo_light_skin_tone",
   "1F93D-1F3FE-200D-2642-FE0F=man_playing_water_polo_medium-dark_skin_tone",
   "1F93D-1F3FC-200D-2642-FE0F=man_playing_water_polo_medium-light_skin_tone",
   "1F93D-1F3FD-200D-2642-FE0F=man_playing_water_polo_medium_skin_tone",
   "1F46E-200D-2642-FE0F=man_police_officer",
   "1F46E-1F3FF-200D-2642-FE0F=man_police_officer_dark_skin_tone",
   "1F46E-1F3FB-200D-2642-FE0F=man_police_officer_light_skin_tone",
   "1F46E-1F3FE-200D-2642-FE0F=man_police_officer_medium-dark_skin_tone",
   "1F46E-1F3FC-200D-2642-FE0F=man_police_officer_medium-light_skin_tone",
   "1F46E-1F3FD-200D-2642-FE0F=man_police_officer_medium_skin_tone",
   "1F64E-200D-2642-FE0F=man_pouting 1F64E-1F3FF-200D-2642-FE0F=man_pouting_dark_skin_tone",
   "1F64E-1F3FB-200D-2642-FE0F=man_pouting_light_skin_tone",
   "1F64E-1F3FE-200D-2642-FE0F=man_pouting_medium-dark_skin_tone",
   "1F64E-1F3FC-200D-2642-FE0F=man_pouting_medium-light_skin_tone",
   "1F64E-1F3FD-200D-2642-FE0F=man_pouting_medium_skin_tone",
   "1F64B-200D-2642-FE0F=man_raising_hand",
   "1F64B-1F3FF-200D-2642-FE0F=man_raising_hand_dark_skin_tone",
   "1F64B-1F3FB-200D-2642-FE0F=man_raising_hand_light_skin_tone",
   "1F64B-1F3FE-200D-2642-FE0F=man_raising_hand_medium-dark_skin_tone",
   "1F64B-1F3FC-200D-2642-FE0F=man_raising_hand_medium-light_skin_tone",
   "1F64B-1F3FD-200D-2642-FE0F=man_raising_hand_medium_skin_tone",
   "1F6A3-200D-2642-FE0F=man_rowing_boat",
   "1F6A3-1F3FF-200D-2642-FE0F=man_rowing_boat_dark_skin_tone",
   "1F6A3-1F3FB-200D-2642-FE0F=man_rowing_boat_light_skin_tone",
   "1F6A3-1F3FE-200D-2642-FE0F=man_rowing_boat_medium-dark_skin_tone",
   "1F6A3-1F3FC-200D-2642-FE0F=man_rowing_boat_medium-light_skin_tone",
   "1F6A3-1F3FD-200D-2642-FE0F=man_rowing_boat_medium_skin_tone 1F3C3-200D-2642-FE0F=man_running",
   "1F3C3-1F3FF-200D-2642-FE0F=man_running_dark_skin_tone",
   "1F3C3-1F3FB-200D-2642-FE0F=man_running_light_skin_tone",
   "1F3C3-1F3FE-200D-2642-FE0F=man_running_medium-dark_skin_tone",
   "1F3C3-1F3FC-200D-2642-FE0F=man_running_medium-light_skin_tone",
   "1F3C3-1F3FD-200D-2642-FE0F=man_running_medium_skin_tone 1F468-200D-1F52C=man_scientist",
   "1F468-1F3FF-200D-1F52C=man_scientist_dark_skin_tone",
   "1F468-1F3FB-200D-1F52C=man_scientist_light_skin_tone",
   "1F468-1F3FE-200D-1F52C=man_scientist_medium-dark_skin_tone",
   "1F468-1F3FC-200D-1F52C=man_scientist_medium-light_skin_tone",
   "1F468-1F3FD-200D-1F52C=man_scientist_medium_skin_tone 1F937-200D-2642-FE0F=man_shrugging",
   "1F937-1F3FF-200D-2642-FE0F=man_shrugging_dark_skin_tone",
   "1F937-1F3FB-200D-2642-FE0F=man_shrugging_light_skin_tone",
   "1F937-1F3FE-200D-2642-FE0F=man_shrugging_medium-dark_skin_tone",
   "1F937-1F3FC-200D-2642-FE0F=man_shrugging_medium-light_skin_tone",
   "1F937-1F3FD-200D-2642-FE0F=man_shrugging_medium_skin_tone 1F468-200D-1F3A4=man_singer",
   "1F468-1F3FF-200D-1F3A4=man_singer_dark_skin_tone",
   "1F468-1F3FB-200D-1F3A4=man_singer_light_skin_tone",
   "1F468-1F3FE-200D-1F3A4=man_singer_medium-dark_skin_tone",
   "1F468-1F3FC-200D-1F3A4=man_singer_medium-light_skin_tone",
   "1F468-1F3FD-200D-1F3A4=man_singer_medium_skin_tone 1F468-200D-1F393=man_student",
   "1F468-1F3FF-200D-1F393=man_student_dark_skin_tone",
   "1F468-1F3FB-200D-1F393=man_student_light_skin_tone",
   "1F468-1F3FE-200D-1F393=man_student_medium-dark_skin_tone",
   "1F468-1F3FC-200D-1F393=man_student_medium-light_skin_tone",
   "1F468-1F3FD-200D-1F393=man_student_medium_skin_tone 1F3C4-200D-2642-FE0F=man_surfing",
   "1F3C4-1F3FF-200D-2642-FE0F=man_surfing_dark_skin_tone",
   "1F3C4-1F3FB-200D-2642-FE0F=man_surfing_light_skin_tone",
   "1F3C4-1F3FE-200D-2642-FE0F=man_surfing_medium-dark_skin_tone",
   "1F3C4-1F3FC-200D-2642-FE0F=man_surfing_medium-light_skin_tone",
   "1F3C4-1F3FD-200D-2642-FE0F=man_surfing_medium_skin_tone 1F3CA-200D-2642-FE0F=man_swimming",
   "1F3CA-1F3FF-200D-2642-FE0F=man_swimming_dark_skin_tone",
   "1F3CA-1F3FB-200D-2642-FE0F=man_swimming_light_skin_tone",
   "1F3CA-1F3FE-200D-2642-FE0F=man_swimming_medium-dark_skin_tone",
   "1F3CA-1F3FC-200D-2642-FE0F=man_swimming_medium-light_skin_tone",
   "1F3CA-1F3FD-200D-2642-FE0F=man_swimming_medium_skin_tone 1F468-200D-1F3EB=man_teacher",
   "1F468-1F3FF-200D-1F3EB=man_teacher_dark_skin_tone",
   "1F468-1F3FB-200D-1F3EB=man_teacher_light_skin_tone",
   "1F468-1F3FE-200D-1F3EB=man_teacher_medium-dark_skin_tone",
   "1F468-1F3FC-200D-1F3EB=man_teacher_medium-light_skin_tone",
   "1F468-1F3FD-200D-1F3EB=man_teacher_medium_skin_tone 1F468-200D-1F4BB=man_technologist",
   "1F468-1F3FF-200D-1F4BB=man_technologist_dark_skin_tone",
   "1F468-1F3FB-200D-1F4BB=man_technologist_light_skin_tone",
   "1F468-1F3FE-200D-1F4BB=man_technologist_medium-dark_skin_tone",
   "1F468-1F3FC-200D-1F4BB=man_technologist_medium-light_skin_tone",
   "1F468-1F3FD-200D-1F4BB=man_technologist_medium_skin_tone",
   "1F481-200D-2642-FE0F=man_tipping_hand",
   "1F481-1F3FF-200D-2642-FE0F=man_tipping_hand_dark_skin_tone",
   "1F481-1F3FB-200D-2642-FE0F=man_tipping_hand_light_skin_tone",
   "1F481-1F3FE-200D-2642-FE0F=man_tipping_hand_medium-dark_skin_tone",
   "1F481-1F3FC-200D-2642-FE0F=man_tipping_hand_medium-light_skin_tone",
   "1F481-1F3FD-200D-2642-FE0F=man_tipping_hand_medium_skin_tone",
   "1F9DB-200D-2642-FE0F=man_vampire 1F9DB-1F3FF-200D-2642-FE0F=man_vampire_dark_skin_tone",
   "1F9DB-1F3FB-200D-2642-FE0F=man_vampire_light_skin_tone",
   "1F9DB-1F3FE-200D-2642-FE0F=man_vampire_medium-dark_skin_tone",
   "1F9DB-1F3FC-200D-2642-FE0F=man_vampire_medium-light_skin_tone",
   "1F9DB-1F3FD-200D-2642-FE0F=man_vampire_medium_skin_tone 1F6B6-200D-2642-FE0F=man_walking",
   "1F6B6-1F3FF-200D-2642-FE0F=man_walking_dark_skin_tone",
   "1F6B6-1F3FB-200D-2642-FE0F=man_walking_light_skin_tone",
   "1F6B6-1F3FE-200D-2642-FE0F=man_walking_medium-dark_skin_tone",
   "1F6B6-1F3FC-200D-2642-FE0F=man_walking_medium-light_skin_tone",
   "1F6B6-1F3FD-200D-2642-FE0F=man_walking_medium_skin_tone",
   "1F473-200D-2642-FE0F=man_wearing_turban",
   "1F473-1F3FF-200D-2642-FE0F=man_wearing_turban_dark_skin_tone",
   "1F473-1F3FB-200D-2642-FE0F=man_wearing_turban_light_skin_tone",
   "1F473-1F3FE-200D-2642-FE0F=man_wearing_turban_medium-dark_skin_tone",
   "1F473-1F3FC-200D-2642-FE0F=man_wearing_turban_medium-light_skin_tone",
   "1F473-1F3FD-200D-2642-FE0F=man_wearing_turban_medium_skin_tone",
   "1F468-200D-1F9AF=man_with_probing_cane 1F472=man_with_chinese_cap|man_with_gua_pi_mao",
   "1F472-1F3FF=man_with_chinese_cap_dark_skin_tone",
   "1F472-1F3FB=man_with_chinese_cap_light_skin_tone",
   "1F472-1F3FE=man_with_chinese_cap_medium-dark_skin_tone",
   "1F472-1F3FC=man_with_chinese_cap_medium-light_skin_tone",
   "1F472-1F3FD=man_with_chinese_cap_medium_skin_tone 1F9DF-200D-2642-FE0F=man_zombie",
   "1F96D=mango 1F570=mantelpiece_clock 1F9BD=manual_wheelchair 1F45E=man’s_shoe|mans_shoe|shoe",
   "1F341=maple_leaf 1F94B=martial_arts_uniform 1F9C9=mate 1F356=meat_on_bone",
   "1F9BE=mechanical_arm 1F9BF=mechanical_leg 2695=medical_symbol 1F4E3=megaphone|mega",
   "1F348=melon 1F4DD=memo|pencil 1F46F-200D-2642-FE0F=men_with_bunny_ears",
   "1F93C-200D-2642-FE0F=men_wrestling 1F54E=menorah|menorah_with_nine_branches",
   "1F6B9=men’s_room|mens 1F9DC-200D-2640-FE0F=mermaid",
   "1F9DC-1F3FF-200D-2640-FE0F=mermaid_dark_skin_tone",
   "1F9DC-1F3FB-200D-2640-FE0F=mermaid_light_skin_tone",
   "1F9DC-1F3FE-200D-2640-FE0F=mermaid_medium-dark_skin_tone",
   "1F9DC-1F3FC-200D-2640-FE0F=mermaid_medium-light_skin_tone",
   "1F9DC-1F3FD-200D-2640-FE0F=mermaid_medium_skin_tone 1F9DC-200D-2642-FE0F=merman",
   "1F9DC-1F3FF-200D-2642-FE0F=merman_dark_skin_tone",
   "1F9DC-1F3FB-200D-2642-FE0F=merman_light_skin_tone",
   "1F9DC-1F3FE-200D-2642-FE0F=merman_medium-dark_skin_tone",
   "1F9DC-1F3FC-200D-2642-FE0F=merman_medium-light_skin_tone",
   "1F9DC-1F3FD-200D-2642-FE0F=merman_medium_skin_tone 1F9DC=merperson",
   "1F9DC-1F3FF=merperson_dark_skin_tone 1F9DC-1F3FB=merperson_light_skin_tone",
   "1F9DC-1F3FE=merperson_medium-dark_skin_tone 1F9DC-1F3FC=merperson_medium-light_skin_tone",
   "1F9DC-1F3FD=merperson_medium_skin_tone 1F687=metro 1F9A0=microbe 1F3A4=microphone",
   "1F52C=microscope 1F595=middle_finger|reversed_hand_with_middle_finger_extended",
   "1F595-1F3FF=middle_finger_dark_skin_tone 1F595-1F3FB=middle_finger_light_skin_tone",
   "1F595-1F3FE=middle_finger_medium-dark_skin_tone",
   "1F595-1F3FC=middle_finger_medium-light_skin_tone 1F595-1F3FD=middle_finger_medium_skin_tone",
   "1F396=military_medal 1F30C=milky_way 1F690=minibus 1F5FF=moai|moyai",
   "1F4F1=mobile_phone|iphone 1F4F4=mobile_phone_off 1F4F2=mobile_phone_with_arrow|calling",
   "1F911=money-mouth_face|money__mouth_face 1F4B0=money_bag|moneybag 1F4B8=money_with_wings",
   "1F412=monkey 1F435=monkey_face 1F69D=monorail 1F96E=moon_cake",
   "1F391=moon_viewing_ceremony|rice_scene 1F54C=mosque 1F99F=mosquito 1F6E5=motor_boat",
   "1F6F5=motor_scooter 1F3CD=motorcycle|racing_motorcycle 1F9BC=motorized_wheelchair",
   "1F6E3=motorway 1F5FB=mount_fuji 26F0=mountain 1F6A0=mountain_cableway 1F69E=mountain_railway",
   "1F42D=mouse|mouse_face 1F444=mouth|lips 1F3A5=movie_camera 1F344=mushroom",
   "1F3B9=musical_keyboard 1F3B5=musical_note 1F3B6=musical_notes|notes 1F3BC=musical_score",
   "1F507=muted_speaker|mute 1F485=nail_polish|nail_care 1F485-1F3FF=nail_polish_dark_skin_tone",
   "1F485-1F3FB=nail_polish_light_skin_tone 1F485-1F3FE=nail_polish_medium-dark_skin_tone",
   "1F485-1F3FC=nail_polish_medium-light_skin_tone 1F485-1F3FD=nail_polish_medium_skin_tone",
   "1F4DB=name_badge 1F3DE=national_park 1F922=nauseated_face 1F9FF=nazar_amulet 1F454=necktie",
   "1F913=nerd_face 1F610=neutral_face 1F311=new_moon 1F31A=new_moon_face|new_moon_with_face",
   "1F4F0=newspaper",
   "23ED=next_track_button|black_right__pointing_double_triangle_with_vertical_bar",
   "1F303=night_with_stars 1F564=nine-thirty|clock930 1F558=nine_o’clock|clock9",
   "1F6B3=no_bicycles 26D4=no_entry 1F6AF=no_littering|do_not_litter 1F4F5=no_mobile_phones",
   "1F51E=no_one_under_eighteen|underage 1F6B7=no_pedestrians 1F6AD=no_smoking",
   "1F6B1=non-potable_water|non__potable_water 1F443=nose 1F443-1F3FF=nose_dark_skin_tone",
   "1F443-1F3FB=nose_light_skin_tone 1F443-1F3FE=nose_medium-dark_skin_tone",
   "1F443-1F3FC=nose_medium-light_skin_tone 1F443-1F3FD=nose_medium_skin_tone 1F4D3=notebook",
   "1F4D4=notebook_with_decorative_cover 1F529=nut_and_bolt 1F419=octopus 1F362=oden",
   "1F3E2=office_building|office 1F479=ogre|japanese_ogre 1F6E2=oil_drum 1F5DD=old_key",
   "1F474=old_man|older_man 1F474-1F3FF=old_man_dark_skin_tone",
   "1F474-1F3FB=old_man_light_skin_tone 1F474-1F3FE=old_man_medium-dark_skin_tone",
   "1F474-1F3FC=old_man_medium-light_skin_tone 1F474-1F3FD=old_man_medium_skin_tone",
   "1F475=old_woman|older_woman 1F475-1F3FF=old_woman_dark_skin_tone",
   "1F475-1F3FB=old_woman_light_skin_tone 1F475-1F3FE=old_woman_medium-dark_skin_tone",
   "1F475-1F3FC=old_woman_medium-light_skin_tone 1F475-1F3FD=old_woman_medium_skin_tone",
   "1F9D3=older_adult 1F9D3-1F3FF=older_adult_dark_skin_tone",
   "1F9D3-1F3FB=older_adult_light_skin_tone 1F9D3-1F3FE=older_adult_medium-dark_skin_tone",
   "1F9D3-1F3FC=older_adult_medium-light_skin_tone 1F9D3-1F3FD=older_adult_medium_skin_tone",
   "1F549=om|om_symbol 1F698=oncoming_automobile 1F68D=oncoming_bus",
   "1F44A=oncoming_fist|facepunch|punch 1F44A-1F3FF=oncoming_fist_dark_skin_tone",
   "1F44A-1F3FB=oncoming_fist_light_skin_tone 1F44A-1F3FE=oncoming_fist_medium-dark_skin_tone",
   "1F44A-1F3FC=oncoming_fist_medium-light_skin_tone 1F44A-1F3FD=oncoming_fist_medium_skin_tone",
   "1F694=oncoming_police_car 1F696=oncoming_taxi 1FA71=one-piece_swimsuit",
   "1F55C=one-thirty|clock130 1F550=one_o’clock|clock1 1F9C5=onion 1F4D6=open_book|book",
   "1F4C2=open_file_folder 1F450=open_hands 1F450-1F3FF=open_hands_dark_skin_tone",
   "1F450-1F3FB=open_hands_light_skin_tone 1F450-1F3FE=open_hands_medium-dark_skin_tone",
   "1F450-1F3FC=open_hands_medium-light_skin_tone 1F450-1F3FD=open_hands_medium_skin_tone",
   "1F4ED=open_mailbox_with_lowered_flag|mailbox_with_no_mail",
   "1F4EC=open_mailbox_with_raised_flag|mailbox_with_mail 1F4BF=optical_disk|cd",
   "1F4D9=orange_book 1F7E0=orange_circle 1F9E1=orange_heart 1F7E7=orange_square 1F9A7=orangutan",
   "2626=orthodox_cross 1F9A6=otter 1F4E4=outbox_tray 1F989=owl 1F402=ox 1F9AA=oyster",
   "1F4E6=package 1F4C4=page_facing_up 1F4C3=page_with_curl 1F4DF=pager",
   "1F58C=paintbrush|lower_left_paintbrush 1F334=palm_tree 1F932=palms_up_together",
   "1F932-1F3FF=palms_up_together_dark_skin_tone 1F932-1F3FB=palms_up_together_light_skin_tone",
   "1F932-1F3FE=palms_up_together_medium-dark_skin_tone",
   "1F932-1F3FC=palms_up_together_medium-light_skin_tone",
   "1F932-1F3FD=palms_up_together_medium_skin_tone 1F95E=pancakes 1F43C=panda_face",
   "1F4CE=paperclip 1F99C=parrot 303D=part_alternation_mark 1F389=party_popper|tada",
   "1F973=partying_face 1F6F3=passenger_ship 1F6C2=passport_control",
   "23F8=pause_button|double_vertical_bar 1F43E=paw_prints|feet 262E=peace_symbol 1F351=peach",
   "1F99A=peacock 1F95C=peanuts 1F350=pear 1F58A=pen|lower_left_ballpoint_pen 1F427=penguin",
   "1F614=pensive_face|pensive 1F9D1-200D-1F91D-200D-1F9D1=people_holding_hands",
   "1F46F=people_with_bunny_ears|dancers 1F93C=people_wrestling 1F3AD=performing_arts",
   "1F623=persevering_face|persevere 1F6B4=person_biking|bicyclist",
   "1F6B4-1F3FF=person_biking_dark_skin_tone 1F6B4-1F3FB=person_biking_light_skin_tone",
   "1F6B4-1F3FE=person_biking_medium-dark_skin_tone",
   "1F6B4-1F3FC=person_biking_medium-light_skin_tone 1F6B4-1F3FD=person_biking_medium_skin_tone",
   "26F9=person_bouncing_ball|person_with_ball 26F9-1F3FF=person_bouncing_ball_dark_skin_tone",
   "26F9-1F3FB=person_bouncing_ball_light_skin_tone",
   "26F9-1F3FE=person_bouncing_ball_medium-dark_skin_tone",
   "26F9-1F3FC=person_bouncing_ball_medium-light_skin_tone",
   "26F9-1F3FD=person_bouncing_ball_medium_skin_tone 1F647=person_bowing|bow",
   "1F647-1F3FF=person_bowing_dark_skin_tone 1F647-1F3FB=person_bowing_light_skin_tone",
   "1F647-1F3FE=person_bowing_medium-dark_skin_tone",
   "1F647-1F3FC=person_bowing_medium-light_skin_tone 1F647-1F3FD=person_bowing_medium_skin_tone",
   "1F938=person_cartwheeling 1F938-1F3FF=person_cartwheeling_dark_skin_tone",
   "1F938-1F3FB=person_cartwheeling_light_skin_tone",
   "1F938-1F3FE=person_cartwheeling_medium-dark_skin_tone",
   "1F938-1F3FC=person_cartwheeling_medium-light_skin_tone",
   "1F938-1F3FD=person_cartwheeling_medium_skin_tone 1F9D7=person_climbing",
   "1F9D7-1F3FF=person_climbing_dark_skin_tone 1F9D7-1F3FB=person_climbing_light_skin_tone",
   "1F9D7-1F3FE=person_climbing_medium-dark_skin_tone",
   "1F9D7-1F3FC=person_climbing_medium-light_skin_tone",
   "1F9D7-1F3FD=person_climbing_medium_skin_tone 1F926=person_facepalming",
   "1F926-1F3FF=person_facepalming_dark_skin_tone 1F926-1F3FB=person_facepalming_light_skin_tone",
   "1F926-1F3FE=person_facepalming_medium-dark_skin_tone",
   "1F926-1F3FC=person_facepalming_medium-light_skin_tone",
   "1F926-1F3FD=person_facepalming_medium_skin_tone 1F93A=person_fencing 1F64D=person_frowning",
   "1F64D-1F3FF=person_frowning_dark_skin_tone 1F64D-1F3FB=person_frowning_light_skin_tone",
   "1F64D-1F3FE=person_frowning_medium-dark_skin_tone",
   "1F64D-1F3FC=person_frowning_medium-light_skin_tone",
   "1F64D-1F3FD=person_frowning_medium_skin_tone 1F645=person_gesturing_no|no_good",
   "1F645-1F3FF=person_gesturing_no_dark_skin_tone",
   "1F645-1F3FB=person_gesturing_no_light_skin_tone",
   "1F645-1F3FE=person_gesturing_no_medium-dark_skin_tone",
   "1F645-1F3FC=person_gesturing_no_medium-light_skin_tone",
   "1F645-1F3FD=person_gesturing_no_medium_skin_tone 1F646=person_gesturing_ok|ok_woman",
   "1F646-1F3FF=person_gesturing_ok_dark_skin_tone",
   "1F646-1F3FB=person_gesturing_ok_light_skin_tone",
   "1F646-1F3FE=person_gesturing_ok_medium-dark_skin_tone",
   "1F646-1F3FC=person_gesturing_ok_medium-light_skin_tone",
   "1F646-1F3FD=person_gesturing_ok_medium_skin_tone 1F487=person_getting_haircut|haircut",
   "1F487-1F3FF=person_getting_haircut_dark_skin_tone",
   "1F487-1F3FB=person_getting_haircut_light_skin_tone",
   "1F487-1F3FE=person_getting_haircut_medium-dark_skin_tone",
   "1F487-1F3FC=person_getting_haircut_medium-light_skin_tone",
   "1F487-1F3FD=person_getting_haircut_medium_skin_tone 1F486=person_getting_massage|massage",
   "1F486-1F3FF=person_getting_massage_dark_skin_tone",
   "1F486-1F3FB=person_getting_massage_light_skin_tone",
   "1F486-1F3FE=person_getting_massage_medium-dark_skin_tone",
   "1F486-1F3FC=person_getting_massage_medium-light_skin_tone",
   "1F486-1F3FD=person_getting_massage_medium_skin_tone 1F3CC=person_golfing|golfer",
   "1F3CC-1F3FF=person_golfing_dark_skin_tone 1F3CC-1F3FB=person_golfing_light_skin_tone",
   "1F3CC-1F3FE=person_golfing_medium-dark_skin_tone",
   "1F3CC-1F3FC=person_golfing_medium-light_skin_tone",
   "1F3CC-1F3FD=person_golfing_medium_skin_tone 1F6CC=person_in_bed|sleeping_accommodation",
   "1F6CC-1F3FF=person_in_bed_dark_skin_tone 1F6CC-1F3FB=person_in_bed_light_skin_tone",
   "1F6CC-1F3FE=person_in_bed_medium-dark_skin_tone",
   "1F6CC-1F3FC=person_in_bed_medium-light_skin_tone 1F6CC-1F3FD=person_in_bed_medium_skin_tone",
   "1F9D8=person_in_lotus_position 1F9D8-1F3FF=person_in_lotus_position_dark_skin_tone",
   "1F9D8-1F3FB=person_in_lotus_position_light_skin_tone",
   "1F9D8-1F3FE=person_in_lotus_position_medium-dark_skin_tone",
   "1F9D8-1F3FC=person_in_lotus_position_medium-light_skin_tone",
   "1F9D8-1F3FD=person_in_lotus_position_medium_skin_tone 1F9D6=person_in_steamy_room",
   "1F9D6-1F3FF=person_in_steamy_room_dark_skin_tone",
   "1F9D6-1F3FB=person_in_steamy_room_light_skin_tone",
   "1F9D6-1F3FE=person_in_steamy_room_medium-dark_skin_tone",
   "1F9D6-1F3FC=person_in_steamy_room_medium-light_skin_tone",
   "1F9D6-1F3FD=person_in_steamy_room_medium_skin_tone 1F939=person_juggling",
   "1F939-1F3FF=person_juggling_dark_skin_tone 1F939-1F3FB=person_juggling_light_skin_tone",
   "1F939-1F3FE=person_juggling_medium-dark_skin_tone",
   "1F939-1F3FC=person_juggling_medium-light_skin_tone",
   "1F939-1F3FD=person_juggling_medium_skin_tone 1F9CE=person_kneeling",
   "1F3CB=person_lifting_weights|weight_lifter 1F3CB-1F3FF=person_lifting_weights_dark_skin_tone",
   "1F3CB-1F3FB=person_lifting_weights_light_skin_tone",
   "1F3CB-1F3FE=person_lifting_weights_medium-dark_skin_tone",
   "1F3CB-1F3FC=person_lifting_weights_medium-light_skin_tone",
   "1F3CB-1F3FD=person_lifting_weights_medium_skin_tone",
   "1F6B5=person_mountain_biking|mountain_bicyclist",
   "1F6B5-1F3FF=person_mountain_biking_dark_skin_tone",
   "1F6B5-1F3FB=person_mountain_biking_light_skin_tone",
   "1F6B5-1F3FE=person_mountain_biking_medium-dark_skin_tone",
   "1F6B5-1F3FC=person_mountain_biking_medium-light_skin_tone",
   "1F6B5-1F3FD=person_mountain_biking_medium_skin_tone 1F93E=person_playing_handball",
   "1F93E-1F3FF=person_playing_handball_dark_skin_tone",
   "1F93E-1F3FB=person_playing_handball_light_skin_tone",
   "1F93E-1F3FE=person_playing_handball_medium-dark_skin_tone",
   "1F93E-1F3FC=person_playing_handball_medium-light_skin_tone",
   "1F93E-1F3FD=person_playing_handball_medium_skin_tone 1F93D=person_playing_water_polo",
   "1F93D-1F3FF=person_playing_water_polo_dark_skin_tone",
   "1F93D-1F3FB=person_playing_water_polo_light_skin_tone",
   "1F93D-1F3FE=person_playing_water_polo_medium-dark_skin_tone",
   "1F93D-1F3FC=person_playing_water_polo_medium-light_skin_tone",
   "1F93D-1F3FD=person_playing_water_polo_medium_skin_tone",
   "1F64E=person_pouting|person_with_pouting_face 1F64E-1F3FF=person_pouting_dark_skin_tone",
   "1F64E-1F3FB=person_pouting_light_skin_tone 1F64E-1F3FE=person_pouting_medium-dark_skin_tone",
   "1F64E-1F3FC=person_pouting_medium-light_skin_tone",
   "1F64E-1F3FD=person_pouting_medium_skin_tone 1F64B=person_raising_hand|raising_hand",
   "1F64B-1F3FF=person_raising_hand_dark_skin_tone",
   "1F64B-1F3FB=person_raising_hand_light_skin_tone",
   "1F64B-1F3FE=person_raising_hand_medium-dark_skin_tone",
   "1F64B-1F3FC=person_raising_hand_medium-light_skin_tone",
   "1F64B-1F3FD=person_raising_hand_medium_skin_tone 1F6A3=person_rowing_boat|rowboat",
   "1F6A3-1F3FF=person_rowing_boat_dark_skin_tone 1F6A3-1F3FB=person_rowing_boat_light_skin_tone",
   "1F6A3-1F3FE=person_rowing_boat_medium-dark_skin_tone",
   "1F6A3-1F3FC=person_rowing_boat_medium-light_skin_tone",
   "1F6A3-1F3FD=person_rowing_boat_medium_skin_tone 1F3C3=person_running|runner|running",
   "1F3C3-1F3FF=person_running_dark_skin_tone 1F3C3-1F3FB=person_running_light_skin_tone",
   "1F3C3-1F3FE=person_running_medium-dark_skin_tone",
   "1F3C3-1F3FC=person_running_medium-light_skin_tone",
   "1F3C3-1F3FD=person_running_medium_skin_tone 1F937=person_shrugging",
   "1F937-1F3FF=person_shrugging_dark_skin_tone 1F937-1F3FB=person_shrugging_light_skin_tone",
   "1F937-1F3FE=person_shrugging_medium-dark_skin_tone",
   "1F937-1F3FC=person_shrugging_medium-light_skin_tone",
   "1F937-1F3FD=person_shrugging_medium_skin_tone 1F9CD=person_standing",
   "1F3C4=person_surfing|surfer 1F3C4-1F3FF=person_surfing_dark_skin_tone",
   "1F3C4-1F3FB=person_surfing_light_skin_tone 1F3C4-1F3FE=person_surfing_medium-dark_skin_tone",
   "1F3C4-1F3FC=person_surfing_medium-light_skin_tone",
   "1F3C4-1F3FD=person_surfing_medium_skin_tone 1F3CA=person_swimming|swimmer",
   "1F3CA-1F3FF=person_swimming_dark_skin_tone 1F3CA-1F3FB=person_swimming_light_skin_tone",
   "1F3CA-1F3FE=person_swimming_medium-dark_skin_tone",
   "1F3CA-1F3FC=person_swimming_medium-light_skin_tone",
   "1F3CA-1F3FD=person_swimming_medium_skin_tone 1F6C0=person_taking_bath|bath",
   "1F6C0-1F3FF=person_taking_bath_dark_skin_tone 1F6C0-1F3FB=person_taking_bath_light_skin_tone",
   "1F6C0-1F3FE=person_taking_bath_medium-dark_skin_tone",
   "1F6C0-1F3FC=person_taking_bath_medium-light_skin_tone",
   "1F6C0-1F3FD=person_taking_bath_medium_skin_tone",
   "1F481=person_tipping_hand|information_desk_person",
   "1F481-1F3FF=person_tipping_hand_dark_skin_tone",
   "1F481-1F3FB=person_tipping_hand_light_skin_tone",
   "1F481-1F3FE=person_tipping_hand_medium-dark_skin_tone",
   "1F481-1F3FC=person_tipping_hand_medium-light_skin_tone",
   "1F481-1F3FD=person_tipping_hand_medium_skin_tone 1F6B6=person_walking|walking",
   "1F6B6-1F3FF=person_walking_dark_skin_tone 1F6B6-1F3FB=person_walking_light_skin_tone",
   "1F6B6-1F3FE=person_walking_medium-dark_skin_tone",
   "1F6B6-1F3FC=person_walking_medium-light_skin_tone",
   "1F6B6-1F3FD=person_walking_medium_skin_tone 1F473=person_wearing_turban|man_with_turban",
   "1F473-1F3FF=person_wearing_turban_dark_skin_tone",
   "1F473-1F3FB=person_wearing_turban_light_skin_tone",
   "1F473-1F3FE=person_wearing_turban_medium-dark_skin_tone",
   "1F473-1F3FC=person_wearing_turban_medium-light_skin_tone",
   "1F473-1F3FD=person_wearing_turban_medium_skin_tone 1F9EB=petri_dish 26CF=pick 1F967=pie",
   "1F437=pig|pig_face 1F43D=pig_nose 1F4A9=pile_of_poo|hankey|poop|shit 1F48A=pill",
   "1F90F=pinching_hand 1F38D=pine_decoration|bamboo 1F34D=pineapple",
   "1F3D3=ping_pong|table_tennis_paddle_and_ball 1F3F4-200D-2620-FE0F=pirate_flag",
   "1F52B=pistol|gun 1F355=pizza 1F6D0=place_of_worship 25B6=play_button|arrow_forward",
   "23EF=play_or_pause_button|black_right__pointing_triangle_with_double_vertical_bar",
   "1F97A=pleading_face 1F693=police_car 1F6A8=police_car_light|rotating_light",
   "1F46E=police_officer|cop 1F46E-1F3FF=police_officer_dark_skin_tone",
   "1F46E-1F3FB=police_officer_light_skin_tone 1F46E-1F3FE=police_officer_medium-dark_skin_tone",
   "1F46E-1F3FC=police_officer_medium-light_skin_tone",
   "1F46E-1F3FD=police_officer_medium_skin_tone 1F429=poodle 1F3B1=pool_8_ball|8ball",
   "1F37F=popcorn 1F4EF=postal_horn 1F4EE=postbox 1F372=pot_of_food|stew 1F6B0=potable_water",
   "1F954=potato 1F357=poultry_leg 1F4B7=pound_banknote|pound 1F63E=pouting_cat_face|pouting_cat",
   "1F621=pouting_face|rage 1F4FF=prayer_beads 1F930=pregnant_woman",
   "1F930-1F3FF=pregnant_woman_dark_skin_tone 1F930-1F3FB=pregnant_woman_light_skin_tone",
   "1F930-1F3FE=pregnant_woman_medium-dark_skin_tone",
   "1F930-1F3FC=pregnant_woman_medium-light_skin_tone",
   "1F930-1F3FD=pregnant_woman_medium_skin_tone 1F968=pretzel 1F9AF=probing_cane 1F934=prince",
   "1F934-1F3FF=prince_dark_skin_tone 1F934-1F3FB=prince_light_skin_tone",
   "1F934-1F3FE=prince_medium-dark_skin_tone 1F934-1F3FC=prince_medium-light_skin_tone",
   "1F934-1F3FD=prince_medium_skin_tone 1F478=princess 1F478-1F3FF=princess_dark_skin_tone",
   "1F478-1F3FB=princess_light_skin_tone 1F478-1F3FE=princess_medium-dark_skin_tone",
   "1F478-1F3FC=princess_medium-light_skin_tone 1F478-1F3FD=princess_medium_skin_tone",
   "1F5A8=printer 1F6AB=prohibited|no_entry_sign 1F7E3=purple_circle 1F49C=purple_heart",
   "1F7EA=purple_square 1F45B=purse 1F4CC=pushpin 2753=question_mark|question",
   "1F430=rabbit|rabbit_face 1F99D=raccoon 1F3CE=racing_car 1F4FB=radio 1F518=radio_button",
   "2622=radioactive|radioactive_sign 1F683=railway_car 1F6E4=railway_track 1F308=rainbow",
   "1F3F3-FE0F-200D-1F308=rainbow_flag 1F91A=raised_back_of_hand",
   "1F91A-1F3FF=raised_back_of_hand_dark_skin_tone",
   "1F91A-1F3FB=raised_back_of_hand_light_skin_tone",
   "1F91A-1F3FE=raised_back_of_hand_medium-dark_skin_tone",
   "1F91A-1F3FC=raised_back_of_hand_medium-light_skin_tone",
   "1F91A-1F3FD=raised_back_of_hand_medium_skin_tone 270A=raised_fist|fist",
   "270A-1F3FF=raised_fist_dark_skin_tone 270A-1F3FB=raised_fist_light_skin_tone",
   "270A-1F3FE=raised_fist_medium-dark_skin_tone 270A-1F3FC=raised_fist_medium-light_skin_tone",
   "270A-1F3FD=raised_fist_medium_skin_tone 270B=raised_hand|hand",
   "270B-1F3FF=raised_hand_dark_skin_tone 270B-1F3FB=raised_hand_light_skin_tone",
   "270B-1F3FE=raised_hand_medium-dark_skin_tone 270B-1F3FC=raised_hand_medium-light_skin_tone",
   "270B-1F3FD=raised_hand_medium_skin_tone 1F64C=raising_hands|raised_hands",
   "1F64C-1F3FF=raising_hands_dark_skin_tone 1F64C-1F3FB=raising_hands_light_skin_tone",
   "1F64C-1F3FE=raising_hands_medium-dark_skin_tone",
   "1F64C-1F3FC=raising_hands_medium-light_skin_tone 1F64C-1F3FD=raising_hands_medium_skin_tone",
   "1F40F=ram 1F400=rat 1FA92=razor 1FA90=ringed_planet 1F9FE=receipt",
   "23FA=record_button|black_circle_for_record 267B=recycling_symbol|recycle",
   "1F34E=red_apple|apple 1F534=red_circle 1F9E7=red_envelope 1F9B0=red_hair",
   "1F468-200D-1F9B0=red-haired_man 1F469-200D-1F9B0=red-haired_woman 2764=red_heart|heart",
   "1F3EE=red_paper_lantern|izakaya_lantern|lantern 1F7E5=red_square",
   "1F53B=red_triangle_pointed_down|small_red_triangle_down",
   "1F53A=red_triangle_pointed_up|small_red_triangle AE=registered 1F60C=relieved_face|relieved",
   "1F397=reminder_ribbon 1F501=repeat_button|repeat 1F502=repeat_single_button|repeat_one",
   "26D1=rescue_worker’s_helmet|helmet_with_white_cross 1F6BB=restroom",
   "25C0=reverse_button|arrow_backward 1F49E=revolving_hearts 1F98F=rhinoceros 1F380=ribbon",
   "1F359=rice_ball 1F358=rice_cracker 1F91C=right-facing_fist",
   "1F91C-1F3FF=right-facing_fist_dark_skin_tone 1F91C-1F3FB=right-facing_fist_light_skin_tone",
   "1F91C-1F3FE=right-facing_fist_medium-dark_skin_tone",
   "1F91C-1F3FC=right-facing_fist_medium-light_skin_tone",
   "1F91C-1F3FD=right-facing_fist_medium_skin_tone 1F5EF=right_anger_bubble",
   "27A1=right_arrow|arrow_right 2935=right_arrow_curving_down|arrow_heading_down",
   "21A9=right_arrow_curving_left|leftwards_arrow_with_hook",
   "2934=right_arrow_curving_up|arrow_heading_up 1F48D=ring",
   "1F360=roasted_sweet_potato|sweet_potato 1F916=robot_face|robot 1F680=rocket",
   "1F9FB=roll_of_paper 1F5DE=rolled-up_newspaper|rolled__up_newspaper 1F3A2=roller_coaster",
   "1F923=rolling_on_the_floor_laughing 1F413=rooster 1F339=rose 1F3F5=rosette",
   "1F4CD=round_pushpin 1F3C9=rugby_football 1F3BD=running_shirt|running_shirt_with_sash",
   "1F45F=running_shoe|athletic_shoe 1F625=sad_but_relieved_face|disappointed_relieved",
   "1F9F7=safety_pin 1F9BA=safety_vest 1F9C2=salt 26F5=sailboat|boat 1F376=sake 1F96A=sandwich",
   "1F97B=sari 1F4E1=satellite|satellite_antenna 1F995=sauropod 1F3B7=saxophone 1F9E3=scarf",
   "1F3EB=school 1F392=school_backpack|school_satchel 2702=scissors 1F982=scorpion 1F4DC=scroll",
   "1F4BA=seat 1F648=see-no-evil_monkey|see_no_evil 1F331=seedling 1F933=selfie",
   "1F933-1F3FF=selfie_dark_skin_tone 1F933-1F3FB=selfie_light_skin_tone",
   "1F933-1F3FE=selfie_medium-dark_skin_tone 1F933-1F3FC=selfie_medium-light_skin_tone",
   "1F933-1F3FD=selfie_medium_skin_tone 1F415-200D-1F9BA=service_dog 1F562=seven-thirty|clock730",
   "1F556=seven_o’clock|clock7 1F958=shallow_pan_of_food 2618=shamrock 1F988=shark",
   "1F367=shaved_ice 1F33E=sheaf_of_rice|ear_of_rice 1F6E1=shield 26E9=shinto_shrine 1F6A2=ship",
   "1F320=shooting_star|stars 1F6CD=shopping_bags 1F6D2=shopping_cart 1F370=shortcake|cake",
   "1FA73=shorts 1F6BF=shower 1F990=shrimp 1F500=shuffle_tracks_button|twisted_rightwards_arrows",
   "1F92B=shushing_face 1F918=sign_of_the_horns 1F918-1F3FF=sign_of_the_horns_dark_skin_tone",
   "1F918-1F3FB=sign_of_the_horns_light_skin_tone",
   "1F918-1F3FE=sign_of_the_horns_medium-dark_skin_tone",
   "1F918-1F3FC=sign_of_the_horns_medium-light_skin_tone",
   "1F918-1F3FD=sign_of_the_horns_medium_skin_tone 1F561=six-thirty|clock630",
   "1F555=six_o’clock|clock6 1F6F9=skateboard 26F7=skier 1F3BF=skis|ski 1F480=skull",
   "2620=skull_and_crossbones 1F9A8=skunk 1F6F7=sled 1F634=sleeping_face|sleeping",
   "1F62A=sleepy_face|sleepy 1F641=slightly_frowning_face 1F642=slightly_smiling_face",
   "1F3B0=slot_machine 1F9A5=sloth 1F6E9=small_airplane 1F539=small_blue_diamond",
   "1F538=small_orange_diamond 1F63B=smiling_cat_face_with_heart-eyes|heart_eyes_cat",
   "263A=smiling_face|relaxed 1F607=smiling_face_with_halo|innocent",
   "1F970=smiling_face_with_3_hearts 1F60D=smiling_face_with_heart-eyes|heart_eyes",
   "1F608=smiling_face_with_horns|smiling_imp 1F60A=smiling_face_with_smiling_eyes|blush",
   "1F60E=smiling_face_with_sunglasses|sunglasses 1F60F=smirking_face|smirk 1F40C=snail",
   "1F40D=snake 1F927=sneezing_face 1F3D4=snow-capped_mountain|snow_capped_mountain",
   "1F3C2=snowboarder 1F3C2-1F3FF=snowboarder_dark_skin_tone",
   "1F3C2-1F3FB=snowboarder_light_skin_tone 1F3C2-1F3FE=snowboarder_medium-dark_skin_tone",
   "1F3C2-1F3FC=snowboarder_medium-light_skin_tone 1F3C2-1F3FD=snowboarder_medium_skin_tone",
   "2744=snowflake 2603=snowman 26C4=snowman_without_snow 1F9FC=soap 26BD=soccer_ball|soccer",
   "1F9E6=socks 1F94E=softball 1F366=soft_ice_cream|icecream 2660=spade_suit|spades",
   "1F35D=spaghetti 2747=sparkle 1F387=sparkler 2728=sparkles 1F496=sparkling_heart",
   "1F64A=speak-no-evil_monkey|speak_no_evil 1F50A=speaker_high_volume|loud_sound",
   "1F508=speaker_low_volume|speaker 1F509=speaker_medium_volume|sound",
   "1F5E3=speaking_head|speaking_head_in_silhouette 1F4AC=speech_balloon 1F6A4=speedboat",
   "1F577=spider 1F578=spider_web 1F5D3=spiral_calendar|spiral_calendar_pad",
   "1F5D2=spiral_notepad|spiral_note_pad 1F41A=spiral_shell|shell 1F944=spoon 1F9FD=sponge",
   "1F699=sport_utility_vehicle|blue_car 1F3C5=sports_medal 1F433=spouting_whale|whale",
   "1F991=squid 1F61D=squinting_face_with_tongue|stuck_out_tongue_closed_eyes 1F3DF=stadium",
   "1F929=star-struck 262A=star_and_crescent 2721=star_of_david 1F689=station",
   "1F35C=steaming_bowl|ramen 1FA7A=stethoscope 23F9=stop_button|black_square_for_stop",
   "1F6D1=stop_sign 23F1=stopwatch 1F4CF=straight_ruler 1F353=strawberry 1F399=studio_microphone",
   "1F959=stuffed_flatbread 2600=sun|sunny 26C5=sun_behind_cloud|partly_sunny",
   "1F325=sun_behind_large_cloud|white_sun_behind_cloud",
   "1F326=sun_behind_rain_cloud|white_sun_behind_cloud_with_rain",
   "1F324=sun_behind_small_cloud|white_sun_with_small_cloud 1F31E=sun_with_face 1F33B=sunflower",
   "1F305=sunrise 1F304=sunrise_over_mountains 1F307=sunset|city_sunrise 1F9B8=superhero",
   "1F9B9=supervillain 1F363=sushi 1F69F=suspension_railway 1F9A2=swan",
   "1F4A6=sweat_droplets|sweat_drops 1F54D=synagogue 1F489=syringe 1F455=t-shirt|shirt|tshirt",
   "1F32E=taco 1F961=takeout_box 1F38B=tanabata_tree 1F34A=tangerine 1F695=taxi",
   "1F375=teacup_without_handle|tea 1F9F8=teddy_bear 260E=telephone|phone",
   "1F4DE=telephone_receiver 1F52D=telescope 1F4FA=television|tv 1F565=ten-thirty|clock1030",
   "1F559=ten_o’clock|clock10 1F3BE=tennis 26FA=tent 1F9EA=test_tube 1F321=thermometer",
   "1F914=thinking_face 1F4AD=thought_balloon 1F9F5=thread 1F55E=three-thirty|clock330",
   "1F552=three_o’clock|clock3 1F44E=thumbs_down|__1|-1|thumbsdown",
   "1F44E-1F3FF=thumbs_down_dark_skin_tone 1F44E-1F3FB=thumbs_down_light_skin_tone",
   "1F44E-1F3FE=thumbs_down_medium-dark_skin_tone 1F44E-1F3FC=thumbs_down_medium-light_skin_tone",
   "1F44E-1F3FD=thumbs_down_medium_skin_tone 1F44D=thumbs_up|+1|thumbsup",
   "1F44D-1F3FF=thumbs_up_dark_skin_tone 1F44D-1F3FB=thumbs_up_light_skin_tone",
   "1F44D-1F3FE=thumbs_up_medium-dark_skin_tone 1F44D-1F3FC=thumbs_up_medium-light_skin_tone",
   "1F44D-1F3FD=thumbs_up_medium_skin_tone 1F3AB=ticket 1F42F=tiger|tiger_face 23F2=timer_clock",
   "1F62B=tired_face 1F9F0=toolbox 1F6BD=toilet 1F345=tomato 1F445=tongue 1F9B7=tooth",
   "1F3A9=top_hat|tophat 1F32A=tornado|cloud_with_tornado 1F5B2=trackball 1F69C=tractor",
   "2122=trade_mark|tm 1F68B=train|tram_car 1F68A=tram",
   "1F6A9=triangular_flag|triangular_flag_on_post 1F4D0=triangular_ruler",
   "1F531=trident_emblem|trident 1F68E=trolleybus 1F3C6=trophy 1F379=tropical_drink",
   "1F420=tropical_fish 1F3BA=trumpet 1F337=tulip 1F943=tumbler_glass 1F422=turtle",
   "1F567=twelve-thirty|clock1230 1F55B=twelve_o’clock|clock12 1F55D=two-thirty|clock230",
   "1F495=two_hearts 1F46C=two_men_holding_hands 1F551=two_o’clock|clock2",
   "1F46D=two_women_holding_hands 2602=umbrella 26F1=umbrella_on_ground",
   "2614=umbrella_with_rain_drops 1F612=unamused_face|unamused 1F984=unicorn_face",
   "1F513=unlocked|unlock 2195=up-down_arrow|arrow_up_down 2196=up-left_arrow|arrow_upper_left",
   "2197=up-right_arrow|arrow_upper_right 2B06=up_arrow|arrow_up",
   "1F643=upside-down_face|upside__down_face 1F53C=upwards_button|arrow_up_small 1F9DB=vampire",
   "1F9DB-1F3FF=vampire_dark_skin_tone 1F9DB-1F3FB=vampire_light_skin_tone",
   "1F9DB-1F3FE=vampire_medium-dark_skin_tone 1F9DB-1F3FC=vampire_medium-light_skin_tone",
   "1F9DB-1F3FD=vampire_medium_skin_tone 1F6A6=vertical_traffic_light 1F4F3=vibration_mode",
   "270C=victory_hand|v 270C-1F3FF=victory_hand_dark_skin_tone",
   "270C-1F3FB=victory_hand_light_skin_tone 270C-1F3FE=victory_hand_medium-dark_skin_tone",
   "270C-1F3FC=victory_hand_medium-light_skin_tone 270C-1F3FD=victory_hand_medium_skin_tone",
   "1F4F9=video_camera 1F3AE=video_game 1F4FC=videocassette|vhs 1F3BB=violin 1F30B=volcano",
   "1F3D0=volleyball 1F596=vulcan_salute|raised_hand_with_part_between_middle_and_ring_fingers",
   "1F596-1F3FF=vulcan_salute_dark_skin_tone 1F596-1F3FB=vulcan_salute_light_skin_tone",
   "1F596-1F3FE=vulcan_salute_medium-dark_skin_tone",
   "1F596-1F3FC=vulcan_salute_medium-light_skin_tone 1F596-1F3FD=vulcan_salute_medium_skin_tone",
   "1F9C7=waffle 1F318=waning_crescent_moon 1F316=waning_gibbous_moon 26A0=warning",
   "1F5D1=wastebasket 231A=watch 1F403=water_buffalo 1F6BE=water_closet|wc",
   "1F30A=water_wave|ocean 1F349=watermelon 1F44B=waving_hand|wave",
   "1F44B-1F3FF=waving_hand_dark_skin_tone 1F44B-1F3FB=waving_hand_light_skin_tone",
   "1F44B-1F3FE=waving_hand_medium-dark_skin_tone 1F44B-1F3FC=waving_hand_medium-light_skin_tone",
   "1F44B-1F3FD=waving_hand_medium_skin_tone 3030=wavy_dash 1F312=waxing_crescent_moon",
   "1F314=waxing_gibbous_moon|moon 1F640=weary_cat_face|scream_cat 1F629=weary_face|weary",
   "1F492=wedding 2638=wheel_of_dharma 267F=wheelchair_symbol|wheelchair 26AA=white_circle",
   "2755=white_exclamation_mark|grey_exclamation 1F3F3=white_flag|waving_white_flag",
   "1F4AE=white_flower 1F9B3=white_hair 1F468-200D-1F9B3=white-haired_man",
   "1F469-200D-1F9B3=white-haired_woman 1F90D=white_heart",
   "2705=white_heavy_check_mark|white_check_mark 2B1C=white_large_square",
   "25FD=white_medium-small_square|white_medium_small_square 25FB=white_medium_square",
   "2B50=white_medium_star|star 2754=white_question_mark|grey_question 25AB=white_small_square",
   "1F533=white_square_button 1F940=wilted_flower 1F390=wind_chime",
   "1F32C=wind_face|wind_blowing_face 1F377=wine_glass 1F609=winking_face|wink",
   "1F61C=winking_face_with_tongue|stuck_out_tongue_winking_eye 1F43A=wolf_face|wolf 1F469=woman",
   "1F469-200D-1F3A8=woman_artist 1F469-1F3FF-200D-1F3A8=woman_artist_dark_skin_tone",
   "1F469-1F3FB-200D-1F3A8=woman_artist_light_skin_tone",
   "1F469-1F3FE-200D-1F3A8=woman_artist_medium-dark_skin_tone",
   "1F469-1F3FC-200D-1F3A8=woman_artist_medium-light_skin_tone",
   "1F469-1F3FD-200D-1F3A8=woman_artist_medium_skin_tone 1F469-200D-1F680=woman_astronaut",
   "1F469-1F3FF-200D-1F680=woman_astronaut_dark_skin_tone",
   "1F469-1F3FB-200D-1F680=woman_astronaut_light_skin_tone",
   "1F469-1F3FE-200D-1F680=woman_astronaut_medium-dark_skin_tone",
   "1F469-1F3FC-200D-1F680=woman_astronaut_medium-light_skin_tone",
   "1F469-1F3FD-200D-1F680=woman_astronaut_medium_skin_tone 1F6B4-200D-2640-FE0F=woman_biking",
   "1F6B4-1F3FF-200D-2640-FE0F=woman_biking_dark_skin_tone",
   "1F6B4-1F3FB-200D-2640-FE0F=woman_biking_light_skin_tone",
   "1F6B4-1F3FE-200D-2640-FE0F=woman_biking_medium-dark_skin_tone",
   "1F6B4-1F3FC-200D-2640-FE0F=woman_biking_medium-light_skin_tone",
   "1F6B4-1F3FD-200D-2640-FE0F=woman_biking_medium_skin_tone",
   "26F9-FE0F-200D-2640-FE0F=woman_bouncing_ball",
   "26F9-1F3FF-200D-2640-FE0F=woman_bouncing_ball_dark_skin_tone",
   "26F9-1F3FB-200D-2640-FE0F=woman_bouncing_ball_light_skin_tone",
   "26F9-1F3FE-200D-2640-FE0F=woman_bouncing_ball_medium-dark_skin_tone",
   "26F9-1F3FC-200D-2640-FE0F=woman_bouncing_ball_medium-light_skin_tone",
   "26F9-1F3FD-200D-2640-FE0F=woman_bouncing_ball_medium_skin_tone",
   "1F647-200D-2640-FE0F=woman_bowing 1F647-1F3FF-200D-2640-FE0F=woman_bowing_dark_skin_tone",
   "1F647-1F3FB-200D-2640-FE0F=woman_bowing_light_skin_tone",
   "1F647-1F3FE-200D-2640-FE0F=woman_bowing_medium-dark_skin_tone",
   "1F647-1F3FC-200D-2640-FE0F=woman_bowing_medium-light_skin_tone",
   "1F647-1F3FD-200D-2640-FE0F=woman_bowing_medium_skin_tone",
   "1F938-200D-2640-FE0F=woman_cartwheeling",
   "1F938-1F3FF-200D-2640-FE0F=woman_cartwheeling_dark_skin_tone",
   "1F938-1F3FB-200D-2640-FE0F=woman_cartwheeling_light_skin_tone",
   "1F938-1F3FE-200D-2640-FE0F=woman_cartwheeling_medium-dark_skin_tone",
   "1F938-1F3FC-200D-2640-FE0F=woman_cartwheeling_medium-light_skin_tone",
   "1F938-1F3FD-200D-2640-FE0F=woman_cartwheeling_medium_skin_tone",
   "1F9D7-200D-2640-FE0F=woman_climbing 1F9D7-1F3FF-200D-2640-FE0F=woman_climbing_dark_skin_tone",
   "1F9D7-1F3FB-200D-2640-FE0F=woman_climbing_light_skin_tone",
   "1F9D7-1F3FE-200D-2640-FE0F=woman_climbing_medium-dark_skin_tone",
   "1F9D7-1F3FC-200D-2640-FE0F=woman_climbing_medium-light_skin_tone",
   "1F9D7-1F3FD-200D-2640-FE0F=woman_climbing_medium_skin_tone",
   "1F477-200D-2640-FE0F=woman_construction_worker",
   "1F477-1F3FF-200D-2640-FE0F=woman_construction_worker_dark_skin_tone",
   "1F477-1F3FB-200D-2640-FE0F=woman_construction_worker_light_skin_tone",
   "1F477-1F3FE-200D-2640-FE0F=woman_construction_worker_medium-dark_skin_tone",
   "1F477-1F3FC-200D-2640-FE0F=woman_construction_worker_medium-light_skin_tone",
   "1F477-1F3FD-200D-2640-FE0F=woman_construction_worker_medium_skin_tone",
   "1F469-200D-1F373=woman_cook 1F469-1F3FF-200D-1F373=woman_cook_dark_skin_tone",
   "1F469-1F3FB-200D-1F373=woman_cook_light_skin_tone",
   "1F469-1F3FE-200D-1F373=woman_cook_medium-dark_skin_tone",
   "1F469-1F3FC-200D-1F373=woman_cook_medium-light_skin_tone",
   "1F469-1F3FD-200D-1F373=woman_cook_medium_skin_tone 1F483=woman_dancing|dancer",
   "1F483-1F3FF=woman_dancing_dark_skin_tone 1F483-1F3FB=woman_dancing_light_skin_tone",
   "1F483-1F3FE=woman_dancing_medium-dark_skin_tone",
   "1F483-1F3FC=woman_dancing_medium-light_skin_tone 1F483-1F3FD=woman_dancing_medium_skin_tone",
   "1F469-1F3FF=woman_dark_skin_tone 1F575-FE0F-200D-2640-FE0F=woman_detective",
   "1F575-1F3FF-200D-2640-FE0F=woman_detective_dark_skin_tone",
   "1F575-1F3FB-200D-2640-FE0F=woman_detective_light_skin_tone",
   "1F575-1F3FE-200D-2640-FE0F=woman_detective_medium-dark_skin_tone",
   "1F575-1F3FC-200D-2640-FE0F=woman_detective_medium-light_skin_tone",
   "1F575-1F3FD-200D-2640-FE0F=woman_detective_medium_skin_tone 1F9DD-200D-2640-FE0F=woman_elf",
   "1F9DD-1F3FF-200D-2640-FE0F=woman_elf_dark_skin_tone",
   "1F9DD-1F3FB-200D-2640-FE0F=woman_elf_light_skin_tone",
   "1F9DD-1F3FE-200D-2640-FE0F=woman_elf_medium-dark_skin_tone",
   "1F9DD-1F3FC-200D-2640-FE0F=woman_elf_medium-light_skin_tone",
   "1F9DD-1F3FD-200D-2640-FE0F=woman_elf_medium_skin_tone 1F926-200D-2640-FE0F=woman_facepalming",
   "1F926-1F3FF-200D-2640-FE0F=woman_facepalming_dark_skin_tone",
   "1F926-1F3FB-200D-2640-FE0F=woman_facepalming_light_skin_tone",
   "1F926-1F3FE-200D-2640-FE0F=woman_facepalming_medium-dark_skin_tone",
   "1F926-1F3FC-200D-2640-FE0F=woman_facepalming_medium-light_skin_tone",
   "1F926-1F3FD-200D-2640-FE0F=woman_facepalming_medium_skin_tone",
   "1F469-200D-1F3ED=woman_factory_worker",
   "1F469-1F3FF-200D-1F3ED=woman_factory_worker_dark_skin_tone",
   "1F469-1F3FB-200D-1F3ED=woman_factory_worker_light_skin_tone",
   "1F469-1F3FE-200D-1F3ED=woman_factory_worker_medium-dark_skin_tone",
   "1F469-1F3FC-200D-1F3ED=woman_factory_worker_medium-light_skin_tone",
   "1F469-1F3FD-200D-1F3ED=woman_factory_worker_medium_skin_tone",
   "1F9DA-200D-2640-FE0F=woman_fairy 1F9DA-1F3FF-200D-2640-FE0F=woman_fairy_dark_skin_tone",
   "1F9DA-1F3FB-200D-2640-FE0F=woman_fairy_light_skin_tone",
   "1F9DA-1F3FE-200D-2640-FE0F=woman_fairy_medium-dark_skin_tone",
   "1F9DA-1F3FC-200D-2640-FE0F=woman_fairy_medium-light_skin_tone",
   "1F9DA-1F3FD-200D-2640-FE0F=woman_fairy_medium_skin_tone 1F469-200D-1F33E=woman_farmer",
   "1F469-1F3FF-200D-1F33E=woman_farmer_dark_skin_tone",
   "1F469-1F3FB-200D-1F33E=woman_farmer_light_skin_tone",
   "1F469-1F3FE-200D-1F33E=woman_farmer_medium-dark_skin_tone",
   "1F469-1F3FC-200D-1F33E=woman_farmer_medium-light_skin_tone",
   "1F469-1F3FD-200D-1F33E=woman_farmer_medium_skin_tone 1F469-200D-1F692=woman_firefighter",
   "1F469-1F3FF-200D-1F692=woman_firefighter_dark_skin_tone",
   "1F469-1F3FB-200D-1F692=woman_firefighter_light_skin_tone",
   "1F469-1F3FE-200D-1F692=woman_firefighter_medium-dark_skin_tone",
   "1F469-1F3FC-200D-1F692=woman_firefighter_medium-light_skin_tone",
   "1F469-1F3FD-200D-1F692=woman_firefighter_medium_skin_tone",
   "1F64D-200D-2640-FE0F=woman_frowning 1F64D-1F3FF-200D-2640-FE0F=woman_frowning_dark_skin_tone",
   "1F64D-1F3FB-200D-2640-FE0F=woman_frowning_light_skin_tone",
   "1F64D-1F3FE-200D-2640-FE0F=woman_frowning_medium-dark_skin_tone",
   "1F64D-1F3FC-200D-2640-FE0F=woman_frowning_medium-light_skin_tone",
   "1F64D-1F3FD-200D-2640-FE0F=woman_frowning_medium_skin_tone 1F9DE-200D-2640-FE0F=woman_genie",
   "1F645-200D-2640-FE0F=woman_gesturing_no",
   "1F645-1F3FF-200D-2640-FE0F=woman_gesturing_no_dark_skin_tone",
   "1F645-1F3FB-200D-2640-FE0F=woman_gesturing_no_light_skin_tone",
   "1F645-1F3FE-200D-2640-FE0F=woman_gesturing_no_medium-dark_skin_tone",
   "1F645-1F3FC-200D-2640-FE0F=woman_gesturing_no_medium-light_skin_tone",
   "1F645-1F3FD-200D-2640-FE0F=woman_gesturing_no_medium_skin_tone",
   "1F646-200D-2640-FE0F=woman_gesturing_ok",
   "1F646-1F3FF-200D-2640-FE0F=woman_gesturing_ok_dark_skin_tone",
   "1F646-1F3FB-200D-2640-FE0F=woman_gesturing_ok_light_skin_tone",
   "1F646-1F3FE-200D-2640-FE0F=woman_gesturing_ok_medium-dark_skin_tone",
   "1F646-1F3FC-200D-2640-FE0F=woman_gesturing_ok_medium-light_skin_tone",
   "1F646-1F3FD-200D-2640-FE0F=woman_gesturing_ok_medium_skin_tone",
   "1F487-200D-2640-FE0F=woman_getting_haircut",
   "1F487-1F3FF-200D-2640-FE0F=woman_getting_haircut_dark_skin_tone",
   "1F487-1F3FB-200D-2640-FE0F=woman_getting_haircut_light_skin_tone",
   "1F487-1F3FE-200D-2640-FE0F=woman_getting_haircut_medium-dark_skin_tone",
   "1F487-1F3FC-200D-2640-FE0F=woman_getting_haircut_medium-light_skin_tone",
   "1F487-1F3FD-200D-2640-FE0F=woman_getting_haircut_medium_skin_tone",
   "1F486-200D-2640-FE0F=woman_getting_massage",
   "1F486-1F3FF-200D-2640-FE0F=woman_getting_massage_dark_skin_tone",
   "1F486-1F3FB-200D-2640-FE0F=woman_getting_massage_light_skin_tone",
   "1F486-1F3FE-200D-2640-FE0F=woman_getting_massage_medium-dark_skin_tone",
   "1F486-1F3FC-200D-2640-FE0F=woman_getting_massage_medium-light_skin_tone",
   "1F486-1F3FD-200D-2640-FE0F=woman_getting_massage_medium_skin_tone",
   "1F3CC-FE0F-200D-2640-FE0F=woman_golfing",
   "1F3CC-1F3FF-200D-2640-FE0F=woman_golfing_dark_skin_tone",
   "1F3CC-1F3FB-200D-2640-FE0F=woman_golfing_light_skin_tone",
   "1F3CC-1F3FE-200D-2640-FE0F=woman_golfing_medium-dark_skin_tone",
   "1F3CC-1F3FC-200D-2640-FE0F=woman_golfing_medium-light_skin_tone",
   "1F3CC-1F3FD-200D-2640-FE0F=woman_golfing_medium_skin_tone 1F482-200D-2640-FE0F=woman_guard",
   "1F482-1F3FF-200D-2640-FE0F=woman_guard_dark_skin_tone",
   "1F482-1F3FB-200D-2640-FE0F=woman_guard_light_skin_tone",
   "1F482-1F3FE-200D-2640-FE0F=woman_guard_medium-dark_skin_tone",
   "1F482-1F3FC-200D-2640-FE0F=woman_guard_medium-light_skin_tone",
   "1F482-1F3FD-200D-2640-FE0F=woman_guard_medium_skin_tone",
   "1F469-200D-2695-FE0F=woman_health_worker",
   "1F469-1F3FF-200D-2695-FE0F=woman_health_worker_dark_skin_tone",
   "1F469-1F3FB-200D-2695-FE0F=woman_health_worker_light_skin_tone",
   "1F469-1F3FE-200D-2695-FE0F=woman_health_worker_medium-dark_skin_tone",
   "1F469-1F3FC-200D-2695-FE0F=woman_health_worker_medium-light_skin_tone",
   "1F469-1F3FD-200D-2695-FE0F=woman_health_worker_medium_skin_tone",
   "1F9D8-200D-2640-FE0F=woman_in_lotus_position",
   "1F9D8-1F3FF-200D-2640-FE0F=woman_in_lotus_position_dark_skin_tone",
   "1F9D8-1F3FB-200D-2640-FE0F=woman_in_lotus_position_light_skin_tone",
   "1F9D8-1F3FE-200D-2640-FE0F=woman_in_lotus_position_medium-dark_skin_tone",
   "1F9D8-1F3FC-200D-2640-FE0F=woman_in_lotus_position_medium-light_skin_tone",
   "1F9D8-1F3FD-200D-2640-FE0F=woman_in_lotus_position_medium_skin_tone",
   "1F469-200D-1F9BD=woman_in_manual_wheelchair 1F469-200D-1F9BC=woman_in_motorized_wheelchair",
   "1F9D6-200D-2640-FE0F=woman_in_steamy_room",
   "1F9D6-1F3FF-200D-2640-FE0F=woman_in_steamy_room_dark_skin_tone",
   "1F9D6-1F3FB-200D-2640-FE0F=woman_in_steamy_room_light_skin_tone",
   "1F9D6-1F3FE-200D-2640-FE0F=woman_in_steamy_room_medium-dark_skin_tone",
   "1F9D6-1F3FC-200D-2640-FE0F=woman_in_steamy_room_medium-light_skin_tone",
   "1F9D6-1F3FD-200D-2640-FE0F=woman_in_steamy_room_medium_skin_tone",
   "1F469-200D-2696-FE0F=woman_judge 1F469-1F3FF-200D-2696-FE0F=woman_judge_dark_skin_tone",
   "1F469-1F3FB-200D-2696-FE0F=woman_judge_light_skin_tone",
   "1F469-1F3FE-200D-2696-FE0F=woman_judge_medium-dark_skin_tone",
   "1F469-1F3FC-200D-2696-FE0F=woman_judge_medium-light_skin_tone",
   "1F469-1F3FD-200D-2696-FE0F=woman_judge_medium_skin_tone 1F939-200D-2640-FE0F=woman_juggling",
   "1F939-1F3FF-200D-2640-FE0F=woman_juggling_dark_skin_tone",
   "1F939-1F3FB-200D-2640-FE0F=woman_juggling_light_skin_tone",
   "1F939-1F3FE-200D-2640-FE0F=woman_juggling_medium-dark_skin_tone",
   "1F939-1F3FC-200D-2640-FE0F=woman_juggling_medium-light_skin_tone",
   "1F939-1F3FD-200D-2640-FE0F=woman_juggling_medium_skin_tone",
   "1F3CB-FE0F-200D-2640-FE0F=woman_lifting_weights",
   "1F3CB-1F3FF-200D-2640-FE0F=woman_lifting_weights_dark_skin_tone",
   "1F3CB-1F3FB-200D-2640-FE0F=woman_lifting_weights_light_skin_tone",
   "1F3CB-1F3FE-200D-2640-FE0F=woman_lifting_weights_medium-dark_skin_tone",
   "1F3CB-1F3FC-200D-2640-FE0F=woman_lifting_weights_medium-light_skin_tone",
   "1F3CB-1F3FD-200D-2640-FE0F=woman_lifting_weights_medium_skin_tone",
   "1F469-1F3FB=woman_light_skin_tone 1F9D9-200D-2640-FE0F=woman_mage",
   "1F9D9-1F3FF-200D-2640-FE0F=woman_mage_dark_skin_tone",
   "1F9D9-1F3FB-200D-2640-FE0F=woman_mage_light_skin_tone",
   "1F9D9-1F3FE-200D-2640-FE0F=woman_mage_medium-dark_skin_tone",
   "1F9D9-1F3FC-200D-2640-FE0F=woman_mage_medium-light_skin_tone",
   "1F9D9-1F3FD-200D-2640-FE0F=woman_mage_medium_skin_tone 1F469-200D-1F527=woman_mechanic",
   "1F469-1F3FF-200D-1F527=woman_mechanic_dark_skin_tone",
   "1F469-1F3FB-200D-1F527=woman_mechanic_light_skin_tone",
   "1F469-1F3FE-200D-1F527=woman_mechanic_medium-dark_skin_tone",
   "1F469-1F3FC-200D-1F527=woman_mechanic_medium-light_skin_tone",
   "1F469-1F3FD-200D-1F527=woman_mechanic_medium_skin_tone",
   "1F469-1F3FE=woman_medium-dark_skin_tone 1F469-1F3FC=woman_medium-light_skin_tone",
   "1F469-1F3FD=woman_medium_skin_tone 1F6B5-200D-2640-FE0F=woman_mountain_biking",
   "1F6B5-1F3FF-200D-2640-FE0F=woman_mountain_biking_dark_skin_tone",
   "1F6B5-1F3FB-200D-2640-FE0F=woman_mountain_biking_light_skin_tone",
   "1F6B5-1F3FE-200D-2640-FE0F=woman_mountain_biking_medium-dark_skin_tone",
   "1F6B5-1F3FC-200D-2640-FE0F=woman_mountain_biking_medium-light_skin_tone",
   "1F6B5-1F3FD-200D-2640-FE0F=woman_mountain_biking_medium_skin_tone",
   "1F469-200D-1F4BC=woman_office_worker",
   "1F469-1F3FF-200D-1F4BC=woman_office_worker_dark_skin_tone",
   "1F469-1F3FB-200D-1F4BC=woman_office_worker_light_skin_tone",
   "1F469-1F3FE-200D-1F4BC=woman_office_worker_medium-dark_skin_tone",
   "1F469-1F3FC-200D-1F4BC=woman_office_worker_medium-light_skin_tone",
   "1F469-1F3FD-200D-1F4BC=woman_office_worker_medium_skin_tone 1F469-200D-2708-FE0F=woman_pilot",
   "1F469-1F3FF-200D-2708-FE0F=woman_pilot_dark_skin_tone",
   "1F469-1F3FB-200D-2708-FE0F=woman_pilot_light_skin_tone",
   "1F469-1F3FE-200D-2708-FE0F=woman_pilot_medium-dark_skin_tone",
   "1F469-1F3FC-200D-2708-FE0F=woman_pilot_medium-light_skin_tone",
   "1F469-1F3FD-200D-2708-FE0F=woman_pilot_medium_skin_tone",
   "1F93E-200D-2640-FE0F=woman_playing_handball",
   "1F93E-1F3FF-200D-2640-FE0F=woman_playing_handball_dark_skin_tone",
   "1F93E-1F3FB-200D-2640-FE0F=woman_playing_handball_light_skin_tone",
   "1F93E-1F3FE-200D-2640-FE0F=woman_playing_handball_medium-dark_skin_tone",
   "1F93E-1F3FC-200D-2640-FE0F=woman_playing_handball_medium-light_skin_tone",
   "1F93E-1F3FD-200D-2640-FE0F=woman_playing_handball_medium_skin_tone",
   "1F93D-200D-2640-FE0F=woman_playing_water_polo",
   "1F93D-1F3FF-200D-2640-FE0F=woman_playing_water_polo_dark_skin_tone",
   "1F93D-1F3FB-200D-2640-FE0F=woman_playing_water_polo_light_skin_tone",
   "1F93D-1F3FE-200D-2640-FE0F=woman_playing_water_polo_medium-dark_skin_tone",
   "1F93D-1F3FC-200D-2640-FE0F=woman_playing_water_polo_medium-light_skin_tone",
   "1F93D-1F3FD-200D-2640-FE0F=woman_playing_water_polo_medium_skin_tone",
   "1F46E-200D-2640-FE0F=woman_police_officer",
   "1F46E-1F3FF-200D-2640-FE0F=woman_police_officer_dark_skin_tone",
   "1F46E-1F3FB-200D-2640-FE0F=woman_police_officer_light_skin_tone",
   "1F46E-1F3FE-200D-2640-FE0F=woman_police_officer_medium-dark_skin_tone",
   "1F46E-1F3FC-200D-2640-FE0F=woman_police_officer_medium-light_skin_tone",
   "1F46E-1F3FD-200D-2640-FE0F=woman_police_officer_medium_skin_tone",
   "1F64E-200D-2640-FE0F=woman_pouting 1F64E-1F3FF-200D-2640-FE0F=woman_pouting_dark_skin_tone",
   "1F64E-1F3FB-200D-2640-FE0F=woman_pouting_light_skin_tone",
   "1F64E-1F3FE-200D-2640-FE0F=woman_pouting_medium-dark_skin_tone",
   "1F64E-1F3FC-200D-2640-FE0F=woman_pouting_medium-light_skin_tone",
   "1F64E-1F3FD-200D-2640-FE0F=woman_pouting_medium_skin_tone",
   "1F64B-200D-2640-FE0F=woman_raising_hand",
   "1F64B-1F3FF-200D-2640-FE0F=woman_raising_hand_dark_skin_tone",
   "1F64B-1F3FB-200D-2640-FE0F=woman_raising_hand_light_skin_tone",
   "1F64B-1F3FE-200D-2640-FE0F=woman_raising_hand_medium-dark_skin_tone",
   "1F64B-1F3FC-200D-2640-FE0F=woman_raising_hand_medium-light_skin_tone",
   "1F64B-1F3FD-200D-2640-FE0F=woman_raising_hand_medium_skin_tone",
   "1F6A3-200D-2640-FE0F=woman_rowing_boat",
   "1F6A3-1F3FF-200D-2640-FE0F=woman_rowing_boat_dark_skin_tone",
   "1F6A3-1F3FB-200D-2640-FE0F=woman_rowing_boat_light_skin_tone",
   "1F6A3-1F3FE-200D-2640-FE0F=woman_rowing_boat_medium-dark_skin_tone",
   "1F6A3-1F3FC-200D-2640-FE0F=woman_rowing_boat_medium-light_skin_tone",
   "1F6A3-1F3FD-200D-2640-FE0F=woman_rowing_boat_medium_skin_tone",
   "1F3C3-200D-2640-FE0F=woman_running 1F3C3-1F3FF-200D-2640-FE0F=woman_running_dark_skin_tone",
   "1F3C3-1F3FB-200D-2640-FE0F=woman_running_light_skin_tone",
   "1F3C3-1F3FE-200D-2640-FE0F=woman_running_medium-dark_skin_tone",
   "1F3C3-1F3FC-200D-2640-FE0F=woman_running_medium-light_skin_tone",
   "1F3C3-1F3FD-200D-2640-FE0F=woman_running_medium_skin_tone 1F469-200D-1F52C=woman_scientist",
   "1F469-1F3FF-200D-1F52C=woman_scientist_dark_skin_tone",
   "1F469-1F3FB-200D-1F52C=woman_scientist_light_skin_tone",
   "1F469-1F3FE-200D-1F52C=woman_scientist_medium-dark_skin_tone",
   "1F469-1F3FC-200D-1F52C=woman_scientist_medium-light_skin_tone",
   "1F469-1F3FD-200D-1F52C=woman_scientist_medium_skin_tone 1F937-200D-2640-FE0F=woman_shrugging",
   "1F937-1F3FF-200D-2640-FE0F=woman_shrugging_dark_skin_tone",
   "1F937-1F3FB-200D-2640-FE0F=woman_shrugging_light_skin_tone",
   "1F937-1F3FE-200D-2640-FE0F=woman_shrugging_medium-dark_skin_tone",
   "1F937-1F3FC-200D-2640-FE0F=woman_shrugging_medium-light_skin_tone",
   "1F937-1F3FD-200D-2640-FE0F=woman_shrugging_medium_skin_tone 1F469-200D-1F3A4=woman_singer",
   "1F469-1F3FF-200D-1F3A4=woman_singer_dark_skin_tone",
   "1F469-1F3FB-200D-1F3A4=woman_singer_light_skin_tone",
   "1F469-1F3FE-200D-1F3A4=woman_singer_medium-dark_skin_tone",
   "1F469-1F3FC-200D-1F3A4=woman_singer_medium-light_skin_tone",
   "1F469-1F3FD-200D-1F3A4=woman_singer_medium_skin_tone 1F469-200D-1F393=woman_student",
   "1F469-1F3FF-200D-1F393=woman_student_dark_skin_tone",
   "1F469-1F3FB-200D-1F393=woman_student_light_skin_tone",
   "1F469-1F3FE-200D-1F393=woman_student_medium-dark_skin_tone",
   "1F469-1F3FC-200D-1F393=woman_student_medium-light_skin_tone",
   "1F469-1F3FD-200D-1F393=woman_student_medium_skin_tone 1F3C4-200D-2640-FE0F=woman_surfing",
   "1F3C4-1F3FF-200D-2640-FE0F=woman_surfing_dark_skin_tone",
   "1F3C4-1F3FB-200D-2640-FE0F=woman_surfing_light_skin_tone",
   "1F3C4-1F3FE-200D-2640-FE0F=woman_surfing_medium-dark_skin_tone",
   "1F3C4-1F3FC-200D-2640-FE0F=woman_surfing_medium-light_skin_tone",
   "1F3C4-1F3FD-200D-2640-FE0F=woman_surfing_medium_skin_tone",
   "1F3CA-200D-2640-FE0F=woman_swimming 1F3CA-1F3FF-200D-2640-FE0F=woman_swimming_dark_skin_tone",
   "1F3CA-1F3FB-200D-2640-FE0F=woman_swimming_light_skin_tone",
   "1F3CA-1F3FE-200D-2640-FE0F=woman_swimming_medium-dark_skin_tone",
   "1F3CA-1F3FC-200D-2640-FE0F=woman_swimming_medium-light_skin_tone",
   "1F3CA-1F3FD-200D-2640-FE0F=woman_swimming_medium_skin_tone 1F469-200D-1F3EB=woman_teacher",
   "1F469-1F3FF-200D-1F3EB=woman_teacher_dark_skin_tone",
   "1F469-1F3FB-200D-1F3EB=woman_teacher_light_skin_tone",
   "1F469-1F3FE-200D-1F3EB=woman_teacher_medium-dark_skin_tone",
   "1F469-1F3FC-200D-1F3EB=woman_teacher_medium-light_skin_tone",
   "1F469-1F3FD-200D-1F3EB=woman_teacher_medium_skin_tone 1F469-200D-1F4BB=woman_technologist",
   "1F469-1F3FF-200D-1F4BB=woman_technologist_dark_skin_tone",
   "1F469-1F3FB-200D-1F4BB=woman_technologist_light_skin_tone",
   "1F469-1F3FE-200D-1F4BB=woman_technologist_medium-dark_skin_tone",
   "1F469-1F3FC-200D-1F4BB=woman_technologist_medium-light_skin_tone",
   "1F469-1F3FD-200D-1F4BB=woman_technologist_medium_skin_tone",
   "1F481-200D-2640-FE0F=woman_tipping_hand",
   "1F481-1F3FF-200D-2640-FE0F=woman_tipping_hand_dark_skin_tone",
   "1F481-1F3FB-200D-2640-FE0F=woman_tipping_hand_light_skin_tone",
   "1F481-1F3FE-200D-2640-FE0F=woman_tipping_hand_medium-dark_skin_tone",
   "1F481-1F3FC-200D-2640-FE0F=woman_tipping_hand_medium-light_skin_tone",
   "1F481-1F3FD-200D-2640-FE0F=woman_tipping_hand_medium_skin_tone",
   "1F9DB-200D-2640-FE0F=woman_vampire 1F9DB-1F3FF-200D-2640-FE0F=woman_vampire_dark_skin_tone",
   "1F9DB-1F3FB-200D-2640-FE0F=woman_vampire_light_skin_tone",
   "1F9DB-1F3FE-200D-2640-FE0F=woman_vampire_medium-dark_skin_tone",
   "1F9DB-1F3FC-200D-2640-FE0F=woman_vampire_medium-light_skin_tone",
   "1F9DB-1F3FD-200D-2640-FE0F=woman_vampire_medium_skin_tone 1F6B6-200D-2640-FE0F=woman_walking",
   "1F6B6-1F3FF-200D-2640-FE0F=woman_walking_dark_skin_tone",
   "1F6B6-1F3FB-200D-2640-FE0F=woman_walking_light_skin_tone",
   "1F6B6-1F3FE-200D-2640-FE0F=woman_walking_medium-dark_skin_tone",
   "1F6B6-1F3FC-200D-2640-FE0F=woman_walking_medium-light_skin_tone",
   "1F6B6-1F3FD-200D-2640-FE0F=woman_walking_medium_skin_tone",
   "1F473-200D-2640-FE0F=woman_wearing_turban",
   "1F473-1F3FF-200D-2640-FE0F=woman_wearing_turban_dark_skin_tone",
   "1F473-1F3FB-200D-2640-FE0F=woman_wearing_turban_light_skin_tone",
   "1F473-1F3FE-200D-2640-FE0F=woman_wearing_turban_medium-dark_skin_tone",
   "1F473-1F3FC-200D-2640-FE0F=woman_wearing_turban_medium-light_skin_tone",
   "1F473-1F3FD-200D-2640-FE0F=woman_wearing_turban_medium_skin_tone 1F9D5=woman_with_headscarf",
   "1F9D5-1F3FF=woman_with_headscarf_dark_skin_tone",
   "1F9D5-1F3FB=woman_with_headscarf_light_skin_tone",
   "1F9D5-1F3FE=woman_with_headscarf_medium-dark_skin_tone",
   "1F9D5-1F3FC=woman_with_headscarf_medium-light_skin_tone",
   "1F9D5-1F3FD=woman_with_headscarf_medium_skin_tone 1F469-200D-1F9AF=woman_with_probing_cane",
   "1F9DF-200D-2640-FE0F=woman_zombie 1F462=woman’s_boot|boot",
   "1F45A=woman’s_clothes|womans_clothes 1F452=woman’s_hat|womans_hat",
   "1F461=woman’s_sandal|sandal 1F46F-200D-2640-FE0F=women_with_bunny_ears",
   "1F93C-200D-2640-FE0F=women_wrestling 1F6BA=women’s_room|womens 1F974=woozy_face",
   "1F5FA=world_map 1F61F=worried_face|worried 1F381=wrapped_gift|gift 1F527=wrench",
   "270D=writing_hand 270D-1F3FF=writing_hand_dark_skin_tone",
   "270D-1F3FB=writing_hand_light_skin_tone 270D-1F3FE=writing_hand_medium-dark_skin_tone",
   "270D-1F3FC=writing_hand_medium-light_skin_tone 270D-1F3FD=writing_hand_medium_skin_tone",
   "1F9F6=yarn 1F971=yawning_face 1F7E1=yellow_circle 1F49B=yellow_heart 1F7E8=yellow_square",
   "1F4B4=yen_banknote|yen 1FA80=yo-yo 262F=yin_yang 1F92A=zany_face 1F993=zebra",
   "1F910=zipper-mouth_face|zipper__mouth_face 1F9DF=zombie 1F4A4=zzz",
   "1F1E6-1F1FD=åland_islands|flag_for_åland_islands 2A-20E3=keycap_asterisk",
   "38-20E3=keycap_digit_eight 35-20E3=keycap_digit_five 34-20E3=keycap_digit_four",
   "39-20E3=keycap_digit_nine 31-20E3=keycap_digit_one 37-20E3=keycap_digit_seven",
   "36-20E3=keycap_digit_six 33-20E3=keycap_digit_three 32-20E3=keycap_digit_two",
   "30-20E3=keycap_digit_zero 23-20E3=keycap_number_sign",
   "1F3FB=light_skin_tone|emoji_modifier_fitzpatrick_type__1__2",
   "1F3FC=medium_light_skin_tone|emoji_modifier_fitzpatrick_type__3",
   "1F3FD=medium_skin_tone|emoji_modifier_fitzpatrick_type__4",
   "1F3FE=medium_dark_skin_tone|emoji_modifier_fitzpatrick_type__5",
   "1F3FF=dark_skin_tone|emoji_modifier_fitzpatrick_type__6",
   "1F1E6=regional_indicator_symbol_letter_a|regional_indicator_a",
   "1F1E7=regional_indicator_symbol_letter_b|regional_indicator_b",
   "1F1E8=regional_indicator_symbol_letter_c|regional_indicator_c",
   "1F1E9=regional_indicator_symbol_letter_d|regional_indicator_d",
   "1F1EA=regional_indicator_symbol_letter_e|regional_indicator_e",
   "1F1EB=regional_indicator_symbol_letter_f|regional_indicator_f",
   "1F1EC=regional_indicator_symbol_letter_g|regional_indicator_g",
   "1F1ED=regional_indicator_symbol_letter_h|regional_indicator_h",
   "1F1EE=regional_indicator_symbol_letter_i|regional_indicator_i",
   "1F1EF=regional_indicator_symbol_letter_j|regional_indicator_j",
   "1F1F0=regional_indicator_symbol_letter_k|regional_indicator_k",
   "1F1F1=regional_indicator_symbol_letter_l|regional_indicator_l",
   "1F1F2=regional_indicator_symbol_letter_m|regional_indicator_m",
   "1F1F3=regional_indicator_symbol_letter_n|regional_indicator_n",
   "1F1F4=regional_indicator_symbol_letter_o|regional_indicator_o",
   "1F1F5=regional_indicator_symbol_letter_p|regional_indicator_p",
   "1F1F6=regional_indicator_symbol_letter_q|regional_indicator_q",
   "1F1F7=regional_indicator_symbol_letter_r|regional_indicator_r",
   "1F1F8=regional_indicator_symbol_letter_s|regional_indicator_s",
   "1F1F9=regional_indicator_symbol_letter_t|regional_indicator_t",
   "1F1FA=regional_indicator_symbol_letter_u|regional_indicator_u",
   "1F1FB=regional_indicator_symbol_letter_v|regional_indicator_v",
   "1F1FC=regional_indicator_symbol_letter_w|regional_indicator_w",
   "1F1FD=regional_indicator_symbol_letter_x|regional_indicator_x",
   "1F1FE=regional_indicator_symbol_letter_y|regional_indicator_y",
   "1F1FF=regional_indicator_symbol_letter_z|regional_indicator_z 1F4C5=date 1F408=cat2",
   "1F404=cow2 1F576=dark_sunglasses 1F415=dog2 1F42A=dromedary_camel 1F3E4=european_post_office",
   "1F1EF-1F1F5=flag_for_japan 1F1F9-1F1F7=flag_for_turkey 2388=helm_symbol 1F40E=racehorse",
   "1F48F=couplekiss 1F401=mouse2 270F=pencil2 1F416=pig2 1F407=rabbit2 1F405=tiger2",
   "1F686=train2 1F40B=whale2"]

/-- The number that hexadecimal digits stand for. -/
def codePoint (digits : List Char) : Nat :=
  digits.foldl (fun n c => n * 16 + (if c.isDigit then c.toNat - 48 else c.toNat - 55)) 0

/-- The names of a pictograph and its characters, from an entry of the table. -/
def pictographEntry (entry : List Char) : List (List Char) × List Char :=
  match Text.piecesBy (· == '=') entry with
  | codes :: names :: _ =>
    (Text.piecesBy (· == '|') names,
      (Text.piecesBy (· == '-') codes).map fun digits => Char.ofNat (codePoint digits))
  | _ => ([], [])

/-- The pictographs by their names. -/
def pictographs : List (List (List Char) × List Char) :=
  pictographTable.flatMap fun line => (Text.piecesBy (· == ' ') line.toList).map pictographEntry

/-- What a pictograph consists of: the signs and digits of keys, and characters beyond ASCII. -/
def isPictographic (c : Char) : Bool := c.isDigit || c == '#' || c == '*' || 0x80 ≤ c.toNat

/-- The pictograph of a name. -/
def pictograph? (name : List Char) : Option (List Char) :=
  ((pictographs.find? fun entry => entry.1.contains name).map (·.2)).filter (·.all isPictographic)

end PrivilegeCatalog.Console
