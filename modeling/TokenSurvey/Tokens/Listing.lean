/-! Tokens of more than one byte with their ranks: a part of four published tables. -/
namespace TokenSurvey.Tokens

/-- One token a line: its bytes in hexadecimal, then its rank in cl100k_base, o200k_base, p50k_base
and r50k_base; a dash stands where a vocabulary lacks it.

The tables hold many more tokens. These were chosen for texts that are drawn from the corpus, with a
few besides; the count of any other text may differ from its count by the whole table. -/
def listing : String := "0909 298 335 - -
090a 1602 2775 - -
0920 3762 7758 - -
0941 23845 49448 - -
0958 22906 46425 - -
0964 2765 5971 - -
0972 7145 11694 - -
0a0a 271 279 628 628
0d0a 319 370 - -
0d0d - 94214 - -
2009 7163 14593 - -
200a 720 793 - -
2020 256 256 50257 -
2021 758 1073 5145 5145
2027 364 461 705 705
2028 320 350 357 357
2029 883 1546 1267 1267
202b 489 659 1343 1343
202c 1174 1366 837 837
202d 482 533 532 532
202e 662 887 764 764
202f 611 820 1220 1220
2031 - - 352 352
2033 - - 513 513
2036 - - 718 718
2037 - - 767 767
203d 284 314 796 796
203f 949 1423 5633 5633
2041 362 355 317 317
2048 473 487 367 367
2049 358 357 314 314
2053 328 336 311 311
2054 350 353 309 309
2057 468 486 370 370
2058 1630 2127 1395 1395
2061 264 261 257 257
2062 293 287 275 275
2063 272 274 269 269
2064 294 272 288 288
2065 384 319 304 304
2066 282 285 277 277
2068 305 312 289 289
2069 602 575 1312 1312
206a 503 441 474 474
206c 326 305 300 300
206d 296 284 285 285
206e 308 297 299 299
206f 297 293 267 267
2070 281 275 279 279
2071 2874 2335 10662 10662
2072 436 428 374 374
2073 274 265 264 264
2074 259 260 256 256
2075 577 337 334 334
2076 348 323 410 410
2077 289 286 266 266
2078 865 1215 2124 2124
2079 379 342 331 331
207b 314 354 1391 1391
20c2 2188 1322 1587 1587
20c3 1717 1474 6184 6184
210a 4999 4175 - -
2121 3001 2618 3228 3228
2129 16715 19406 8133 8133
212f 89080 199519 48443 48443
213f 58490 78922 22857 22857
2478 64083 154047 - -
2727 4708 5830 7061 7061
2744 28805 78685 - -
274c 92526 195838 - -
274d 28703 95346 - -
2752 91987 - - -
2753 13575 31233 - -
2754 17773 51532 - -
2762 91953 26685 - -
2764 4265 11062 1549 1549
276c 64966 54602 - -
276d 2846 11146 1101 1101
2772 97670 15770 - -
2773 596 885 338 338
2774 956 1507 470 470
280a 1021 1607 - -
2827 493 706 10786 10786
2829 368 416 3419 3419
2841 4444 10706 - -
2862 1921 3229 - -
2878 2120 4061 - -
290a 340 446 - -
2921 42395 63426 31520 31520
292f 5738 11876 20679 20679
293a 1680 3127 2599 2599
293b 1237 2245 1776 1776
2a2a 334 410 1174 1174
2b62 36193 76609 - -
2c0a 345 412 - -
2c21 77902 108423 - -
2d0a 7058 7413 - -
2d2d 313 375 438 438
2d41 6830 9406 - -
2e0a 627 558 - -
2e27 3238 8856 2637 2637
2e29 6266 8476 2014 2014
2e2d 12898 14121 7874 7874
2e2e 497 485 492 492
2e3f 82508 100003 40791 40791
2e42 1823 2611 - -
2e61 5973 8772 - -
2e62 960 1292 - -
2e63 522 1081 - -
2f0a 6018 11124 - -
2f27 11576 24554 - -
2f28 12148 27334 29006 29006
2f2d 24572 35891 16327 16327
2f2f 322 393 1003 1003
2f41 10576 18689 - -
2f62 3554 7611 - -
2f63 2971 4308 - -
3030 410 504 405 405
3031 1721 2290 486 486
3032 2437 3286 2999 2999
3036 2705 3218 3312 3312
3037 2589 3173 2998 2998
3130 605 702 940 940
3132 717 899 1065 1065
3134 975 1265 1415 1415
3135 - - 1314 1314
3230 508 455 1238 1238
3233 1419 1860 1954 1954
3234 - - 1731 1731
3334 1958 3020 2682 2682
3431 3174 4987 3901 3901
3435 1774 2548 2231 2231
3536 3487 5007 3980 3980
3539 2946 4621 3270 3270
3637 3080 5462 3134 3134
3738 2495 4388 3695 3695
3839 4578 7479 4531 4531
3931 5925 8956 6420 6420
3a0a 512 734 - -
3a2f 14712 27975 14079 14079
3b0a 280 307 - -
3d3d 419 560 855 855
3d65 41491 88454 - -
3f0a 5380 3901 - -
3f21 27074 25309 12248 12248
3f27 20837 48511 8348 8348
3f2e 4710 7676 - -
3f3f 7801 6961 3548 3548
4142 1905 2912 6242 6242
4146 8440 11835 8579 8579
414d 1428 2148 2390 2390
4161 - 133719 - -
4162 5953 4292 4826 4826
4243 5002 7551 2749 2749
4263 - 158309 - -
4341 5158 6781 8141 8141
4364 91300 57548 - -
4445 1170 2052 7206 7206
444f 5989 11492 18227 18227
446f 5519 6449 5211 5211
4546 15229 23122 25425 25425
454c 2818 3651 3698 3698
454d 2783 3646 3620 3620
4554 1372 2175 2767 2767
4559 - 161377 22348 22348
4845 1837 2895 13909 13909
4854 2607 4145 6535 6535
4865 1548 2066 1544 1544
4950 3378 3799 4061 4061
4954 964 1468 2043 2043
4970 24267 25092 - -
4974 2181 3206 1026 1026
4c44 12615 20342 11163 11163
4c4c 4178 7454 3069 3069
4c4f 1623 2699 21982 21982
4c6f 4357 6681 27654 27654
4d45 7614 13569 11682 11682
4d63 26353 41691 9742 9742
4f4e 715 975 1340 1340
4f52 878 1301 1581 1581
5053 5119 5895 3705 3705
5068 3438 3780 2725 2725
5245 793 1099 2200 2200
524c 4833 40408 7836 7836
5355 60882 40184 12564 12564
5365 1542 1584 4653 4653
5369 22771 12437 42801 42801
5448 3701 4867 4221 4221
5450 4334 7683 7250 7250
5454 15249 15741 15751 15751
5468 1016 1139 817 817
5469 46451 39091 40533 40533
554d 2864 4540 5883 5883
5645 4592 19511 6089 6089
5745 12739 18092 8845 8845
574f 23513 33728 - -
576f 63862 59067 49450 49450
5b5d 1318 1951 21737 21737
5c62 44556 104469 - -
5c6e 1734 3392 - -
5d7b 15731 31405 - -
5f5f 565 771 834 834
5f62 890 1535 - -
5f63 669 1303 - -
5f70 623 1359 - -
5f73 646 1278 - -
6161 5418 3545 7252 7252
6162 370 378 397 397
6163 582 359 330 330
6164 329 324 324 324
6165 6043 10202 3609 3609
6166 2642 1553 1878 1878
6167 351 348 363 363
616b 587 422 461 461
616c 278 280 282 282
616d 309 313 321 321
616e 276 270 272 272
616f 3524 3458 5488 5488
6172 277 277 283 283
6173 300 288 292 292
6174 266 266 265 265
6175 2933 753 559 559
617a 1394 1071 1031 1031
6261 4749 3103 7012 7012
6263 9081 16715 15630 15630
6266 13536 24556 19881 19881
6269 8385 6738 8482 8482
626f 754 1692 2127 2127
6272 1347 1697 1671 1671
6361 936 3743 6888 6888
6363 641 710 535 535
6364 4484 8301 10210 10210
6365 346 400 344 344
6369 5979 2114 979 979
636b 377 801 694 694
636c 566 565 565 565
636f 1030 1191 1073 1073
6374 302 308 310 310
6375 20811 7719 27399 27399
6461 3315 2529 6814 6814
6465 451 613 2934 2934
6469 8747 4091 10989 10989
646f 3055 2408 4598 4598
6475 1072 698 646 646
6561 12791 12932 18213 18213
6563 762 1007 721 721
6564 291 295 276 276
6566 830 1079 891 891
6568 2701 7714 17231 17231
6569 20568 17432 20295 20295
656c 301 296 417 417
656d 336 347 368 368
656e 268 262 268 268
6570 752 1027 538 538
6571 11251 21725 27363 27363
6572 261 259 263 263
6573 288 268 274 274
6574 295 292 316 316
6575 20732 35732 12496 12496
6578 327 490 1069 1069
6579 1216 806 2959 2959
6665 1897 2302 5036 5036
6666 544 608 487 487
6669 10188 9608 12463 12463
666f 831 1070 6513 6513
6670 11089 23886 46428 46428
6674 728 826 701 701
6675 33721 20331 20942 20942
6769 8376 6248 12397 12397
676e 5010 5900 4593 4593
6865 383 273 258 258
686f 6292 1555 8873 8873
6874 427 470 4352 4352
6961 689 535 544 544
6963 292 291 291 291
6964 307 315 312 312
6965 648 396 494 494
6966 333 366 361 361
696c 321 311 346 346
696d 318 321 320 320
696e 258 258 259 259
696f 822 726 952 952
6970 575 488 541 541
6971 24672 24366 25011 25011
6972 404 380 343 343
6973 285 276 271 271
6974 275 278 270 270
6975 19260 8899 16115 16115
6978 953 1128 844 844
6a75 8783 4734 14396 14396
6b65 441 1272 365 365
6c61 4355 1675 5031 5031
6c64 509 582 335 335
6c69 747 1307 4528 4528
6c6c 657 680 297 297
6c6f 385 746 5439 5439
6c70 13855 27862 34431 34431
6c73 - 3973 - -
6c75 10036 5411 2290 2290
6d61 1764 809 2611 2611
6d63 13183 24335 23209 23209
6d65 2727 1047 1326 1326
6d66 29224 54650 - -
6d69 8318 3900 11632 11632
6d6d 3906 4538 3020 3020
6d6f 6489 3690 5908 5908
6d70 1331 2211 3149 3149
6e61 3458 1503 2616 2616
6e63 1031 24825 10782 10782
6e64 303 301 358 358
6e65 818 611 710 710
6e67 983 892 782 782
6e69 7907 1906 8461 8461
6e6e 7521 16998 20471 20471
6e6f 2201 1750 3919 3919
6e72 20191 33357 48624 48624
6e73 4511 6097 5907 5907
6e74 406 578 429 429
6e75 9110 8502 28803 28803
6f63 511 432 420 420
6f64 347 368 375 375
6f65 4748 5578 2577 2577
6f66 1073 1440 1659 1659
6f67 540 479 519 519
6f69 6870 3412 23013 23013
6f6c 337 340 349 349
6f6d 316 310 296 296
6f6e 263 263 261 261
6f6f 2689 3782 2238 2238
6f72 269 267 273 273
6f73 437 365 418 418
6f76 869 569 709 709
6f77 363 384 322 322
6f78 5241 1233 1140 1140
7061 6733 3899 8957 8957
7069 2554 3455 14415 14415
706f 5481 2519 7501 7501
7072 652 638 1050 1050
7073 1725 947 862 862
7074 418 555 457 457
7175 447 351 421 421
7261 969 614 430 430
7263 1310 2366 6015 6015
7265 265 264 260 260
7269 462 872 380 380
726c 2438 3398 45895 45895
726e 36722 56000 35906 35906
726f 299 298 305 305
7274 3423 6197 17034 17034
7275 2739 1942 622 622
7276 10776 17030 - -
7363 2445 2786 1416 1416
7365 325 344 325 325
7369 6455 4778 13396 13396
736d 3647 5635 5796 5796
736e 9810 22095 16184 16184
7373 784 1087 824 824
7374 267 302 301 301
7375 28149 20634 2385 2385
7461 2629 1524 8326 8326
7465 668 411 660 660
7468 339 404 400 400
7469 10462 2832 20259 20259
746c - 15894 - -
746f 998 935 1462 1462
7470 796 21223 34788 34788
7472 376 371 2213 2213
7474 5683 1037 926 926
7475 25506 10191 28047 28047
7561 4381 2425 6413 6413
7564 664 527 463 463
7566 1739 1427 3046 3046
7567 773 846 1018 1018
7569 2005 1866 9019 9019
756c 360 361 377 377
756d 372 394 388 388
756e 359 373 403 403
756f 24012 18364 20895 20895
7570 455 817 929 929
7572 324 330 333 333
7573 355 385 385 385
7574 332 339 315 315
7578 2249 1778 2821 2821
7665 588 737 303 303
766f 3415 1190 13038 13038
7765 906 854 732 732
776e 1551 1772 675 675
776f 1146 1338 21638 21638
7863 8311 19115 25306 25306
7865 8536 16172 27705 27705
7874 2302 711 742 742
7a79 4341 3705 7357 7357
7b0a 517 745 - -
7b7d 6390 12083 - -
7d0a 534 739 - -
7d28 26628 52930 - -
82ac 7644 2203 8955 8955
85a7 92871 - - -
bbbf 3299 - - -
bfbd - - 4204 4204
c2a0 4194 5310 1849 1849
c2b2 30556 13848 31185 31185
c2bd 27154 27124 23141 23141
c389 27887 5859 38351 38351
c39f 8156 2819 39683 39683
c3a9 978 377 2634 2634
c3af 38672 9954 26884 26884
c5bf - 70067 - -
cc81 54939 13430 - -
cea9 - 45879 - -
d0b6 17394 1065 - -
d9a3 - 81473 - -
e280 378 318 447 447
e282 16275 38207 - -
e285 71567 25371 - -
e29d 49633 22632 32391 32391
e380 1300 476 5099 5099
e4b8 3574 624 10310 10310
e4bd 8687 2100 19526 19526
e5a5 28194 2077 25001 25001
e696 7741 1615 23877 23877
efb8 30337 14350 35266 35266
efbb - 5416 - -
efbf 5681 2828 - -
f09d 57352 43120 47728 47728
f09f 9468 4103 8582 8582
090a0a 16176 31711 - -
09200a 31745 66436 - -
092020 8860 18242 - -
09414d 88337 - - -
096465 59451 25754 - -
09646f 20530 41253 - -
097265 17643 28606 - -
0a090a 18108 40612 - -
0a0a0a 1432 2499 - -
0a0d0a - 191171 - -
0a2f2f - 3914 - -
0ac2a0 - - 44320 44320
0d0a0a 81923 46865 - -
0d0d0a 6053 13212 - -
20090a 17934 43220 - -
200920 66597 160432 - -
200a0a 4815 1202 - -
200d0a 2591 4568 - -
202009 19827 45469 - -
20200a 2355 4066 - -
202020 262 271 50258 -
20210a 59162 27498 - -
20280a 2456 4112 - -
202827 4417 9906 19203 19203
202c0a 13801 24444 - -
202d2d 1198 2230 1377 1377
202e2e 5354 8548 11485 11485
202f0a 40081 70337 - -
202f2f 443 602 3373 3373
203132 - - 1105 1105
203334 - - 4974 4974
203637 - - 8275 8275
203f0a 18072 19740 - -
20414d 6912 7219 3001 3001
204162 3765 3483 2275 2275
204845 11947 18638 11179 11179
204927 - 3413 - -
204950 6933 10108 6101 6101
204970 36133 68068 - -
204974 1102 1225 632 632
205369 12095 7832 15638 15638
205448 4534 6794 2320 2320
205745 20255 26919 12887 12887
20574f - 69831 - -
206164 1008 687 512 512
20616c 453 434 435 435
20616d 1097 939 716 716
20616e 459 448 281 281
206175 8065 2791 35851 35851
206266 40193 74276 - -
206269 6160 4424 3182 3182
206272 1437 1294 865 865
206361 2211 3268 1275 1275
206369 12088 7405 - -
20636f 1080 1407 763 763
206375 7015 2862 18912 18912
206465 409 334 390 390
20646f 656 621 466 466
206475 3930 1462 7043 7043
206561 37646 11235 - -
206569 30529 7675 - -
20656c 658 650 1288 1288
20656e 665 469 551 551
206573 1560 878 1658 1658
206574 1880 859 2123 2123
206575 15925 5658 - -
206578 506 513 409 409
20666f 12018 7176 11511 11511
206675 18922 10702 14035 14035
206865 568 501 339 339
206964 887 1211 4686 4686
20696e 304 306 287 287
206970 6125 7993 20966 20966
206972 6348 3288 4173 4173
206974 433 480 340 340
206a75 10479 6522 7544 7544
206c61 1208 557 8591 8591
206c6f 781 1445 2376 2376
206d61 7643 831 17266 17266
206d69 9686 3997 21504 21504
206d6f 4647 2093 6941 6941
206e69 13080 2565 37628 37628
206e6f 912 860 645 645
206e75 11148 4120 14364 14364
206f63 18274 9155 - -
206f66 315 328 286 286
206f76 25568 12152 19643 19643
207061 7251 2428 14187 14187
207072 550 550 778 778
207175 934 474 627 627
207265 312 322 302 302
207365 513 458 384 384
207369 4502 1784 33721 33721
207375 924 593 424 424
207465 1028 729 573 573
207468 270 325 294 294
20756c 8725 7754 14856 14856
207574 8791 4518 3384 3384
207665 5320 1743 1569 1569
20766f 4160 778 7608 7608
207765 584 581 356 356
20776f 24670 11281 24486 24486
207b0a 341 405 - -
20c2a0 17529 35753 5624 5624
20c3a9 4046 1212 38251 38251
20e4b8 - 11192 - -
20f09f 11410 9552 12520 12520
210d0a 46726 99074 - -
212121 12340 10880 10185 10185
275245 95253 - - -
276c6c 3358 6090 1183 1183
277265 2351 4118 821 821
277665 3077 7341 1053 1053
280a0a 45711 108661 - -
28293b 2178 4177 9783 9783
292f2f 28250 60375 - -
293a0a 997 1883 - -
293b0a 317 362 - -
2c0a0a 3638 4464 - -
2d0d0a 70227 73232 - -
2d2d0a 7233 15442 - -
2d2d2d 4521 10356 6329 6329
2d4162 - 101885 - -
2e2d2d 33501 116176 9816 9816
2e2e0a 35047 16547 - -
2e2e27 84243 - - -
2e2e29 - 182808 - -
2e2e2e 1131 1008 986 986
2e2e3f - 171039 - -
2f0a0a 8851 15094 - -
2f0a2f - 66186 - -
2f2d2d 61587 - - -
2f2f0a 2341 22704 - -
2f2f28 96538 - - -
2f2f2d 62563 - - -
2f2f2f 2640 5991 20379 20379
303030 931 1302 830 830
303037 11194 19378 25816 25816
303234 - - 40839 40839
313030 1041 1353 3064 3064
313233 4513 7633 10163 10163
313431 9335 16926 23756 23756
313539 - - 19707 19707
323032 2366 1323 19004 19004
323334 11727 20771 24409 24409
333435 12901 22901 27712 27712
343135 - - 35038 35038
343536 10961 19354 29228 29228
353637 19282 34904 - -
363738 17458 30833 30924 30924
373839 - - 40401 40401
393132 22750 43023 - -
3a2f2f 1129 1684 1378 1378
3d3d3d 8880 17380 18604 18604
3f0a0a 1980 1715 - -
3f2e2e - 198293 - -
414243 26484 44197 24694 24694
414d45 2797 5105 10067 10067
434146 82418 129413 - -
444546 13963 36563 32988 32988
444f4e 85741 134882 41173 41173
446f6e 8161 11210 3987 3987
454c4c 19659 23710 23304 23304
48454c 51812 111642 - -
484559 78689 166913 - -
48656c 33813 5308 12621 12621
49276d - 15390 - -
495053 27034 42020 47643 47643
497073 - 196041 - -
4c6f72 - 179182 - -
4d4554 45975 73740 47123 47123
4f5245 6005 12937 6965 6965
50686f - 120223 - -
52454d 84537 57031 40726 40726
53554d 28477 54792 - -
536572 32845 3764 7089 7089
536974 61935 102579 46655 46655
544845 17673 27022 10970 10970
545053 - 68748 28820 28820
546865 791 976 464 464
546974 28908 107231 - -
574f52 - - 45359 45359
5b5d7b 21692 31596 - -
5f6361 50704 116183 - -
5f7072 5407 18177 - -
5f7374 1284 2518 - -
5f7375 91027 - - -
616161 33746 55894 46071 46071
616261 12273 4216 15498 15498
616263 13997 26682 39305 39305
61626f 48521 13055 34748 34748
616363 4575 3717 4134 4134
616469 2836 3040 9189 9189
616563 72321 113305 - -
616665 5763 6903 8635 8635
61676e 3326 4894 4660 4660
616b65 731 814 539 539
616c64 4852 5956 1940 1940
616c69 8115 3010 7344 7344
616d65 373 444 480 480
616e69 5676 3048 3216 3216
617269 2850 1683 2743 2743
617274 472 497 433 433
617365 521 618 589 589
617461 460 546 1045 1045
617465 349 379 378 378
617469 9491 3009 7246 7246
61746f 4428 2754 5549 5549
617475 36409 5136 33419 33419
617570 - 112067 - -
617574 2784 1828 2306 2306
617a79 13933 20738 12582 12582
626162 48822 86485 - -
626172 2308 2990 5657 5657
626364 92590 - - -
626f6c 31146 4143 28984 28984
626f72 9552 6270 2865 2865
62726f 15222 14996 7957 7957
636163 84210 173064 - -
636165 99087 - - -
636166 69896 176980 - -
63616e 4919 6929 5171 5171
636173 25295 14617 34004 34004
636174 4719 8837 9246 9246
636361 25445 32927 13227 13227
636570 32752 24899 - -
636961 25088 3565 33743 33743
636964 21200 40970 - -
63696c 82123 8703 2856 2856
63696e 18595 19562 17879 17879
636974 54961 67982 47992 47992
636c6f 33678 - - -
636f6d 884 639 785 785
636f6e 444 542 1102 1102
637465 - 113013 - -
63756c 3395 2885 3129 3129
637570 37765 70869 25244 25244
646174 6036 8597 19608 19608
646561 56188 86089 - -
646566 755 1314 4299 4299
64656e 5294 1660 6559 6559
646572 1126 761 1082 1082
646573 5919 4117 8906 8906
646964 23770 38820 20839 20839
646970 - 83254 - -
646f67 18964 30146 9703 9703
646f6c - 117204 - -
646f6d 5717 7385 3438 3438
646f6e 15357 22130 9099 9099
656361 23637 23497 31047 31047
656374 440 534 478 478
656669 - 155404 - -
656c69 12574 6039 43733 43733
656c6c 616 596 695 695
656d69 22530 18504 43967 43967
656d70 3342 7175 45787 45787
656e64 408 419 437 437
656e69 34229 5572 43850 43850
656e74 306 299 298 298
657074 - - 19598 19598
657175 26378 53097 4853 4853
657263 3035 2831 2798 2798
657269 31803 10781 33442 33442
657275 - 134399 - -
657276 651 792 712 712
657365 2423 1220 2771 2771
657373 434 436 408 408
657374 478 376 395 395
657475 95517 35733 - -
657572 12844 8671 23365 23365
657578 - 176714 - -
657863 40541 82148 41194 41194
657865 47284 70589 13499 13499
657874 428 779 2302 2302
666669 54899 77723 - -
666963 59728 3846 - -
66696d - 103473 - -
666978 5862 11853 13049 13049
666f6f 8134 16660 21943 21943
666f78 15361 19947 12792 12792
667465 64419 24434 - -
66c3a9 59958 87409 - -
676961 55901 44176 - -
676e61 - 105557 - -
68656c 50222 4161 2978 2978
68656e 12301 5447 831 831
686579 36661 48467 20342 20342
686f6e 82649 45427 24130 24130
687474 97436 1998 2804 2804
696162 - 81377 - -
696165 73078 57593 33100 33100
69616d 5038 5866 1789 1789
696174 10574 14331 5375 5375
696369 3457 3757 44070 44070
69636b 875 1003 624 624
696461 4849 2261 3755 3755
696465 579 617 485 485
696469 12558 9175 19830 19830
696475 - 38213 - -
696570 - 57368 - -
696666 3168 4443 733 733
696c69 4008 2751 2403 2403
696c6c 484 492 359 359
696e63 2910 2768 1939 1939
696e64 485 521 521 521
696e67 287 289 278 278
696e69 6729 2363 5362 5362
696e74 396 491 600 600
696f6c 25947 77704 1669 1669
696f6e 290 294 295 295
696f78 24620 27595 12190 12190
697069 92021 50121 - -
697073 3153 3200 2419 2419
697175 5118 8966 1557 1557
697275 - 49452 35406 35406
697363 3510 8605 2304 2304
697369 13532 4496 23267 23267
697461 6388 2580 5350 5350
697573 9334 15740 3754 3754
6a756d - 26944 - -
6c6162 14717 21048 23912 23912
6c616d 24705 6797 2543 2543
6c696f 26205 27142 48590 48590
6c6971 - 133784 - -
6c6974 32735 32758 18250 18250
6c6c61 36882 12121 8466 8466
6c6c69 41076 48078 15516 15516
6c6c6f - 72807 18798 18798
6c6c75 61849 92381 - -
6c6f63 1092 9453 17946 17946
6c6f72 9761 9547 4685 4685
6c756d - 41553 - -
6d6167 31606 19135 19726 19726
6d6574 4150 3001 4164 4164
6d696e 1083 1493 1084 1084
6d6d6f 78775 - - -
6d6f64 2658 4847 4666 4666
6d6f6c 45444 52355 43132 43132
6d7073 94570 - - -
6e2774 - 3023 - -
6e616b 43974 25139 - -
6e616c 43078 19757 - -
6e6465 43441 25566 - -
6e6469 - 74159 - -
6e646f 90314 168392 - -
6e6573 4978 4382 2516 2516
6e6961 21557 17744 18142 18142
6e696d 57851 23780 - -
6e6973 26209 12113 21361 21361
6e6974 45168 35519 48825 48825
6e6f6e 6414 11741 13159 13159
6e6f73 37491 20381 39369 39369
6e756c - 122473 - -
6f6363 14310 16533 13966 13966
6f636b 1197 852 735 735
6f646f 6132 6397 24313 24313
6f6666 1885 2864 2364 2364
6f6674 14450 29282 11205 11205
6f6964 590 11234 1868 1868
6f6c64 820 1280 727 727
6f6c6c 980 1176 692 692
6f6c6f 10216 5539 14057 14057
6f6c75 44906 23250 - -
6f6d6d 20372 23260 2002 2002
6f6d70 14773 23036 3361 3361
6f6e61 6863 3180 4450 4450
6f6e65 606 690 505 505
6f6e73 2439 1808 684 684
6f6f6c 1786 971 970 970
6f7265 461 510 382 382
6f7269 13915 6510 10145 10145
6f726c - 32204 - -
6f7275 66105 34161 27786 27786
6f7374 537 564 455 455
6f7665 1009 1048 659 659
6f776e 785 940 593 593
6f7865 - 176953 - -
706172 1768 796 1845 1845
706964 10629 19554 35317 35317
706973 57996 15463 - -
706f72 4406 2901 1819 1819
707265 1762 2235 3866 3866
70726f 782 823 1676 1676
707461 52691 70854 32283 32283
707465 25123 58815 - -
717561 44932 47212 39566 39566
717569 47391 22771 - -
726566 1116 1874 5420 5420
726568 11310 11696 - -
72656d 1864 1935 2787 2787
726570 10200 17407 7856 7856
726574 2171 3431 1186 1186
726961 4298 18784 7496 7496
726965 7379 22604 5034 5034
726973 6091 9774 2442 2442
726974 1018 1166 799 799
726f69 51560 83501 - -
726f6d 442 511 398 398
726f77 654 843 808 808
727564 67455 73375 - -
72756d 10952 10896 6582 6582
72756e 6236 12935 5143 5143
736369 54927 - 36216 36216
736563 5132 13711 2363 2363
736564 32424 15584 36622 36622
736571 13565 27794 41068 41068
736572 805 599 2655 2655
73696e 16319 23516 31369 31369
736974 47965 72495 48937 48937
737365 65613 - - -
737373 - 132377 - -
737461 21127 8383 38031 38031
737472 496 689 2536 2536
73756d 1264 12298 16345 16345
73756e 40619 41133 19155 19155
746172 27835 23159 18870 18870
746174 68238 32232 - -
746175 30243 84841 - -
74656d 880 1133 11498 11498
746574 73542 62272 - -
746578 34444 6503 16886 16886
746865 1820 3086 1169 1169
746f6c 21220 36618 - -
747261 2221 1787 9535 9535
747275 66353 49970 - -
747470 1231 2172 29281 29281
747572 66467 47616 36590 36590
756162 - 164876 - -
756172 19253 13077 - -
756174 55282 20952 - -
756666 1386 1972 1648 1648
756769 51640 32478 45659 45659
75696c 58797 2726 - -
756973 9425 4560 - -
756c6c 620 754 724 724
756c70 13136 16934 29528 29528
756d61 13722 5669 7487 7487
756d70 1538 2643 931 931
756e65 2957 2561 1726 1726
756e6e 15278 5770 20935 20935
756e74 3935 2202 2797 2797
756f6e - 170366 - -
756f73 84808 68212 - -
757069 - 40347 - -
757074 7717 26814 37623 37623
757265 554 627 495 495
75726e 399 494 700 700
757365 817 1821 1904 1904
757465 1088 1331 1133 1133
76656c 899 1002 626 626
76656e 1055 1066 574 574
766572 424 445 332 332
766f6c 12821 2978 10396 10396
776f72 50810 56090 - -
786365 57063 150682 - -
786572 - 84646 - -
c2a00a 52050 - - -
c39f65 24352 13153 - -
c3a962 - 96403 - -
e2808b 16067 3310 9525 9525
e2808d - 2524 - -
e28094 2345 2322 960 960
e28099 529 438 - -
e2809c 2118 1100 - -
e2809d 863 693 - -
e280a6 1981 1131 1399 1399
e280a8 - 51008 - -
e282ac 15406 5087 26391 26391
e29da4 - 31683 - -
e38080 23249 1397 - -
e4b8ad 16325 1404 40792 40792
e4bda0 57668 12370 - -
e5a5bd 53901 8061 - -
e69687 17161 4883 - -
efb88f 31643 15148 37929 37929
efbbbf 3305 5574 - -
efbfbd 5809 3251 4210 4210
f09d90 - 91362 - -
f09f91 - 28823 41840 41840
f09f98 76460 13865 47249 47249
090a090a 11367 19782 - -
090a0a0a 75476 182344 - -
0920200a 39420 85582 - -
09202020 2829 5531 - -
09646566 7604 23154 - -
09726574 11512 25469 - -
0a0a0a0a 1038 4707 - -
0a0a0d0a - 154368 - -
0a20200a 14211 31835 - -
0d0a0d0a 881 1414 - -
200a0a0a 15073 25980 - -
2020090a 99351 - - -
20200920 79199 - - -
20200a0a 19124 11691 - -
20200d0a 10636 18668 - -
2020200a 5996 10190 - -
20202020 257 257 50259 -
20280a0a 53154 108027 - -
202c0a0a 21863 56452 - -
202d2d0a 40614 83199 - -
202e2e2e 2564 2550 2644 2644
202f2f0a 6611 14442 - -
202f2f28 68122 164302 - -
202f2f2d 79506 - - -
20313233 - - 17031 17031
20333435 - - 39937 39937
203f0a0a 24688 13570 - -
2049276d - 5477 - -
20495053 64257 86028 37632 37632
20497073 90062 141302 47177 47177
20536974 29508 47687 21131 21131
20544845 3247 5135 3336 3336
20574f52 - 197169 21881 21881
20616469 - 97533 - -
20616c69 19528 12719 34965 34965
20616d65 - 96538 - -
20616e69 53088 31096 - -
20617574 3154 1931 1960 1960
20626970 29978 54467 14141 14141
2062726f 2967 3714 1379 1379
20636166 30203 20390 19945 19945
2063696c 62444 30849 - -
20636f6d 470 452 401 401
20636f6e 390 406 369 369
2063756c 11957 15328 10845 10845
20637570 10747 11531 6508 6508
20646573 951 731 748 748
20646f67 5679 6446 3290 3290
20646f6c 21968 10530 - -
20647569 - 110993 - -
20656c69 - 73692 - -
20656e69 - 152284 - -
20657373 4043 3450 3209 3209
20657374 1826 893 1556 1556
20657863 3521 3529 2859 2859
20657865 48293 88742 - -
20666f6f 15586 30551 22944 22944
20666f78 39935 68347 21831 21831
20667567 49184 47771 31497 31497
20696e63 3709 4570 753 753
20697073 60122 28464 - -
20697275 - 102024 - -
206a756d - 33633 - -
206c6162 10278 9887 2248 2248
206c617a 65536 46705 37296 37296
206c6f72 67311 44547 - -
206d6167 4983 3284 2153 2153
206d696e 1332 1349 949 949
206d6f6c 22337 9192 18605 18605
206e6973 - 55609 - -
206e6f6e 2536 2893 1729 1729
206e6f73 12155 4001 43630 43630
206e756c - 64435 - -
206f6363 3056 4138 1609 1609
206f6666 1022 1277 572 572
206f7665 - 63877 31471 31471
20706172 1370 686 1582 1582
2070726f 463 440 386 386
20717569 7930 2780 45567 45567
20726570 2109 2449 1128 1128
20736564 11163 10412 10081 10081
2073696e 7589 2187 7813 7813
20736974 2503 2353 1650 1650
2073756e 7160 7334 4252 4252
2074656d 1592 1589 2169 2169
20746865 279 290 262 262
20756c6c 53396 33509 - -
2076656c 9231 7326 11555 11555
2076656e 11457 9055 8710 8710
20766f6c 4499 2639 2322 2322
20776f72 4191 6785 476 476
20e4b8ad 73958 25403 - -
20f09f98 27623 22861 30325 30325
28293b0a 545 740 - -
28626172 55730 106832 - -
2d2d0d0a 54851 - - -
2d2d2d2d 381 518 650 650
2e2e2e0a 9522 4908 - -
2e2e2e27 74438 144891 - -
2e2e2e29 33674 29081 23029 23029
2e2e2e2e 1975 2358 1106 1106
2e2e2e3f - 186964 44825 44825
2f0a2f2f - 124040 - -
2f2f0a0a 6454 55245 - -
2f2f2d2d 78617 - - -
2f2f2f2f 730 1426 9705 9705
30303030 - - 2388 2388
3d3d3d3d 608 904 1421 1421
3f213f21 - 197440 - -
3f2e2e2e - 110623 - -
48454c4c 69658 144895 - -
48545450 9412 17893 40717 40717
48656c6c 81394 137003 28254 28254
49742773 - 15834 - -
4c6f7265 - 186642 - -
4f524c44 26001 46704 - -
53657276 40259 5680 11838 11838
5f707265 10659 18599 - -
5f737461 81051 199455 - -
61616161 29558 45037 24794 24794
61626162 - 68822 - -
61626364 69744 152936 - -
61626f72 4422 4181 4820 4820
61636361 - 122301 43552 43552
6166c3a9 - 103112 - -
61676e61 56057 49911 48669 48669
616d6574 - 143191 - -
616e696d 16348 13823 11227 11227
61726961 10649 6477 10312 10312
61746174 93584 55268 - -
61746175 - 33179 - -
6174696f 6400 15017 39485 39485
61747561 - 148855 - -
61747572 2693 2228 2541 2541
626f6c64 15168 30322 36575 36575
62726f77 - - 25367 25367
63617365 5756 9994 7442 7442
63657074 1512 953 984 984
63696c6c - - 20346 20346
63696e64 - 77752 - -
63696e67 6253 6776 2259 2259
636f6d6d 3705 2280 9503 9503
636f6e73 6387 9673 5936 5936
64617461 695 1074 7890 7890
64656e74 55923 80502 - -
6568656e 41797 - - -
656c6974 - 78694 - -
656c6c6f 4896 6053 11109 11109
656d706f 22893 11569 - -
656e6465 11178 2541 38396 38396
656e646f 8862 3819 31110 31110
656e6961 59386 57149 - -
65707465 - 104287 - -
65726965 27197 35692 18287 18287
65726974 - 112829 - -
65727665 5976 9645 3760 3760
65736572 - 177390 - -
65737365 24201 10010 35270 35270
65747572 32941 37738 - -
66666963 21264 26117 2108 2108
68656c6c 57195 10844 12758 12758
68656e64 - 89406 15631 15631
686f6e65 26322 31409 - -
68747470 1277 2903 4023 4023
69636961 24985 16957 33577 33577
6964656e 12770 5912 14029 14029
696c6c75 - 28457 - -
696e6369 49697 42973 - -
696e6469 29785 10847 - -
696e6974 2381 3287 15003 15003
69736369 93386 128856 - -
69742773 - 64190 - -
69746174 48877 11781 - -
6a756d70 44396 79879 43327 43327
6c617a79 50113 101772 - -
6c697175 41093 - - -
6c6c756d 5565 87049 - -
6c6f636b 1039 2802 5354 5354
6c6f7265 20763 - 31131 31131
6d61676e - 181493 - -
6d696e69 37511 42752 45313 45313
6d6f646f 77043 112199 - -
6e616b65 - 115179 - -
6e646572 910 7813 681 681
6e6f7374 32557 9614 - -
6e756c6c 2994 5398 8423 8423
6f646f6d 85867 100770 - -
6f667465 - 183905 - -
6f6c6c69 - 160711 - -
6f6c6f72 795 163795 45621 45621
6f6e616c 25180 32246 20996 20996
6f6e7365 - 155145 2591 2591
6f72656d 13475 21468 29625 29625
6f726961 11015 6112 7661 7661
6f726973 51380 50689 37279 37279
6f726c64 1410 1733 1764 1764
6f72756d 34106 23400 19220 19220
6f737472 - 41587 - -
6f766572 2017 2898 2502 2502
70617269 - 169452 - -
70726566 31652 62021 - -
70726568 31882 41989 - -
70726f6d 25475 25652 16963 16963
7073756d - 65853 - -
71756174 74083 157159 - -
7175696c 88684 105248 - -
71756970 36847 38582 - -
71756973 9383 9867 - -
72657072 31937 67002 - -
726f6964 1607 2047 3882 3882
726f776e 4935 7352 2053 2053
73656374 9885 16910 8831 8831
73657175 6741 101089 3107 3107
73746172 12134 16204 7364 7364
73747261 13645 14867 12044 12044
73747275 - 3409 19554 19554
73756666 - - 37333 37333
73756d61 95909 - - -
74656d70 3975 7340 29510 29510
74657572 - 45262 - -
74657874 1342 919 5239 5239
74686579 20670 33574 9930 9930
74696f6e 28491 1141 5378 5378
7475726e 413 529 15344 15344
75676961 - 146951 - -
756c6c61 35178 21917 47972 47972
756d7073 12055 14938 8142 8142
756e6573 8699 12372 4015 4015
75706964 16263 65143 7658 7658
75736572 882 1428 7220 7220
76656c69 - 199973 - -
76656e69 - 88430 - -
c3af7665 - - 38776 38776
e2809973 753 802 - -
f09f9880 - 84083 - -
0a0a0a0a0a 14963 27559 - -
0a2020200a 60058 132652 - -
2009202020 80624 - - -
200d0a0d0a 24226 41840 - -
20200a0a0a 80326 145331 - -
2020200a0a 35033 29104 - -
2020200d0a 20959 35224 - -
202020200a 1084 1944 - -
2020202020 415 530 50260 -
202e2e2e0a 12515 12646 - -
202e2e2e29 48014 100545 - -
202f2f2d2d 73649 174235 - -
2049742773 - 7744 - -
2054484559 63593 95381 33302 33302
2061646970 30366 46125 31659 31659
20616d6574 28311 36204 - -
20616e696d 4039 5727 2355 2355
2061757465 89137 185481 - -
2062726f77 60375 86872 4772 4772
20636f6d6d 1081 1394 725 725
20636f6e73 1615 1473 762 762
2063756c70 98025 84435 21286 21286
2064657365 51388 24246 - -
20646f6c6f - 150712 - -
2065697573 69521 76046 - -
20656c6974 31160 45688 - -
20656e696d 60602 51474 - -
2065737365 42479 15368 - -
2065786365 91384 137137 43748 43748
2065786572 - 142006 - -
2068652764 - 71619 - -
20696e6369 - 192439 - -
2069742773 - 4275 - -
206a756d70 7940 13843 4391 4391
206c61626f - 153356 - -
206c617a79 16053 29082 16931 16931
206c6f7265 52322 116997 24044 24044
206d61676e 8622 15410 7842 7842
206d696e69 13726 15065 9927 9927
206d6f6c6c 55509 76322 - -
206e697369 69252 58560 - -
206e6f7374 31712 15647 18216 18216
206e756c6c 854 1256 9242 9242
206f766572 927 1072 625 625
2070617269 68082 51895 - -
2071756973 49580 39559 - -
2072657072 31736 18822 41575 41575
2073696e74 43329 29021 - -
2073756e74 40795 24871 - -
2074656d70 2798 5484 20218 20218
2074686579 814 1023 484 484
2076656c69 - 187404 - -
2076656e69 - 98006 - -
20f09f9880 91416 88038 - -
2d2d2d2d2d 15431 26067 30934 30934
2e2e2e2e2e 18575 21275 12359 12359
3030303030 - - 20483 20483
3d3d3d3d3d 47825 97693 - -
4854545053 83454 129093 - -
48656c6c6f 9906 13225 15496 15496
4c6f72656d 33883 61495 - -
50686f6e65 7084 7081 6132 6132
5365727665 61521 89428 - -
574f524c44 - 194435 - -
576f726c64 10343 13046 10603 10603
5f63617365 19640 43667 - -
5f70726566 44431 109999 - -
5f73746172 32781 78943 - -
6172696174 41979 46557 21621 21621
6174696f6e 367 387 341 341
62726f776e 65561 152168 33282 33282
63616e2774 - 111833 - -
6365707465 - 147693 - -
636c6f636b 21321 34421 15750 15750
646f6e2774 - 91418 - -
656d706f72 53471 155727 - -
656e646572 1693 1644 2194 2194
6572766572 2906 24737 18497 18497
657475726e 2549 4100 - -
68656c6c6f 15339 24912 31373 31373
6964617461 82180 118032 - -
6964656e74 1748 2477 738 738
6964756e74 57143 86533 - -
6966666963 - 36489 - -
696c6c756d 77665 168333 - -
6974617469 - 154141 - -
6c61626f72 - 156113 - -
6f66666963 - - 14406 14406
6f6d6d6f64 - - 8641 8641
6f6e616c64 80794 - - -
717569636b 28863 46003 24209 24209
7265666978 5170 8902 - -
7265707265 - - 10353 10353
726f6d7074 15091 47192 45700 45700
736e616b65 73239 162012 - -
7374617274 2527 5236 9688 9688
74656d706f - 109378 - -
7566666978 13866 24677 - -
7567696174 - 187614 - -
776f726c64 14957 24169 6894 6894
0a0a0a0a0a0a 5244 37680 - -
0a202020200a 7361 15698 - -
202020200a0a 15152 24372 - -
202020202020 996 1699 50261 -
20497073756d 62462 114922 - -
20574f524c44 51991 79618 29564 29564
20616c697175 43391 51155 - -
2062726f776e 14198 19705 7586 7586
20636166c3a9 53050 30469 40304 40304
20636f6e7365 31025 5887 - -
2063756c7061 84385 62745 - -
206375706964 93543 118278 - -
206465736572 98055 123927 - -
20646f6c6f72 24578 25840 - -
206578657263 7584 8617 4208 4208
20696e636964 62960 61948 - -
20697073756d 27439 38714 - -
206a756d7073 35308 65613 18045 18045
206c61626f72 9511 10363 4827 4827
206c6f72656d 93485 123849 - -
206d61676e61 60017 78404 - -
206d696e696d 21877 23874 10356 10356
206e6f737472 57426 - - -
206e756c6c61 61550 64611 - -
206f66666963 2856 11403 1163 1163
20717569636b 4062 4853 2068 2068
207265707265 - 61296 - -
2074656d706f 24108 11564 28691 28691
20756c6c616d 78108 99386 - -
2076656c6974 72648 82872 - -
207765277665 - 24716 - -
20776f726c64 1917 2375 995 995
27636c6f636b 63510 141801 - -
2d2d2d2d2d2d 16974 22591 23031 23031
2e2e2e2e2e2e 29249 27271 16317 16317
303030303030 - - 10535 10535
3d3d3d3d3d3d 46447 89250 50155 50155
446f6e616c64 18735 38355 7371 7371
536572766572 5592 6444 10697 10697
5f7374617274 5011 10949 - -
636f6d6d6f64 - 11857 - -
657863657074 11945 25035 16341 16341
6950686f6e65 45840 - 37032 37032
697363696e67 53854 - - -
6f6e73657175 - - 40819 40819
707265666978 12113 26155 40290 40290
70726f6d7074 41681 82467 - -
726568656e64 - - 23979 23979
72657475726e 693 1034 7783 7783
737566666978 27884 71868 - -
74656d706f72 - 180213 - -
e29da4efb88f - 116548 - -
e4b8ade69687 - 10667 - -
e4bda0e5a5bd - 177519 - -
0972657475726e 862 1393 - -
0a0a0a0a0a0a0a 35683 70224 - -
20202020202020 286 309 50262 -
20616469706973 - 55806 - -
20616c69717561 87027 151394 - -
20636f6d6d6f64 26631 40847 13088 13088
20636f6e736563 20503 - 42938 42938
20646f6c6f7265 58396 79682 - -
20657863657074 3734 6384 2845 2845
20667567696174 - 150234 - -
206c61626f7265 73304 110546 - -
206e6f73747275 - 142775 - -
206f6363616563 - 171447 - -
206f6666696369 - 61163 - -
20726570726568 78937 124485 - -
2074656d706f72 19502 14725 10042 10042
2076656e69616d 89070 126377 - -
20766f6c757074 51810 40808 - -
2d2d2d2d2d2d2d 21622 39028 26866 26866
2e2e2e2e2e2e2e 49711 62662 25780 25780
30303030303030 - - 24598 24598
3d3d3d3d3d3d3d 54337 106657 - -
5f707265666978 14301 33197 - -
5f737566666978 38251 87556 - -
63657074657572 - 185000 - -
656e6465726974 98568 134831 - -
69746174696f6e 7709 7949 3780 3780
73747261c39f65 - 70882 - -
0a0a0a0a0a0a0a0a 6087 21301 - -
2020202020202020 260 269 50263 -
20636f6d6d6f646f 79424 127896 - -
20636f6e73656374 34935 52460 - -
20636f6e73657175 12777 46524 4937 4937
20656975736d6f64 80222 160226 - -
206c61626f726973 - 199011 - -
206c61626f72756d - 152097 - -
206f666669636961 - 143411 - -
2074686579277265 - 18940 - -
2d2d2d2d2d2d2d2d 515 763 982 982
2e2e2e2e2e2e2e2e 4095 6142 2109 2109
3030303030303030 - - 8269 8269
3d3d3d3d3d3d3d3d 895 1551 2559 2559
6161616161616161 70540 117525 - -
6369746174696f6e 84247 153981 - -
0a0a0a0a0a0a0a0a0a 55160 128841 - -
202020202020202020 692 983 50264 -
206465736572756e74 - 152505 - -
207061726961747572 - 150207 - -
2d2d2d2d2d2d2d2d2d 23573 55446 45537 45537
2e2e2e2e2e2e2e2e2e 62073 98679 34617 34617
3d3d3d3d3d3d3d3d3d 44135 84088 - -
20202020202020202020 1881 3550 50265 -
20636f6e736571756174 85987 131925 - -
20766f6c757074617465 - 145757 - -
2d2d2d2d2d2d2d2d2d2d 15700 26444 35937 35937
2e2e2e2e2e2e2e2e2e2e - 168276 - -
3d3d3d3d3d3d3d3d3d3d 44356 74196 - -
2020202020202020202020 310 352 50266 -
2061646970697363696e67 59024 91785 - -
20696e6369646964756e74 87504 173578 - -
2d2d2d2d2d2d2d2d2d2d2d 18580 55929 32284 32284
3d3d3d3d3d3d3d3d3d3d3d 36499 76059 - -
202020202020202020202020 1835 3346 50267 -
20636f6e7365637465747572 36240 54472 - -
2d2d2d2d2d2d2d2d2d2d2d2d 5272 10793 10541 10541
2e2e2e2e2e2e2e2e2e2e2e2e - 193535 - -
3d3d3d3d3d3d3d3d3d3d3d3d 10615 21985 25609 25609
20202020202020202020202020 1078 1698 50268 -
20657865726369746174696f6e 99549 138821 - -
2d2d2d2d2d2d2d2d2d2d2d2d2d 20098 44451 32501 32501
2e2e2e2e2e2e2e2e2e2e2e2e2e - - 44274 44274
3d3d3d3d3d3d3d3d3d3d3d3d3d 36466 87501 - -
2020202020202020202020202020 2342 4442 50269 -
20726570726568656e6465726974 - 147652 - -
2d2d2d2d2d2d2d2d2d2d2d2d2d2d 43191 41309 26171 26171
3d3d3d3d3d3d3d3d3d3d3d3d3d3d 39703 105090 - -
202020202020202020202020202020 394 506 50270 -
2d2d2d2d2d2d2d2d2d2d2d2d2d2d2d 39745 60846 24305 24305
3d3d3d3d3d3d3d3d3d3d3d3d3d3d3d 46008 110493 - -
20202020202020202020202020202020 338 408 50271 -
2d2d2d2d2d2d2d2d2d2d2d2d2d2d2d2d 776 1297 1783 1783
2e2e2e2e2e2e2e2e2e2e2e2e2e2e2e2e 8054 12701 4181 4181
30303030303030303030303030303030 - - 25645 25645
3d3d3d3d3d3d3d3d3d3d3d3d3d3d3d3d 1547 2900 4770 4770
2020202020202020202020202020202020 1733 2902 50272 -
202020202020202020202020202020202020 4391 8854 50273 -
2e2e2e2e2e2e2e2e2e2e2e2e2e2e2e2e2e2e - - 49129 49129
20202020202020202020202020202020202020 504 699 50274 -
2020202020202020202020202020202020202020 3909 7692 50275 -
2d2d2d2d2d2d2d2d2d2d2d2d2d2d2d2d2d2d2d2d 98804 - 19351 19351
202020202020202020202020202020202020202020 2611 4451 50276 -
20202020202020202020202020202020202020202020 5291 10682 50277 -
2020202020202020202020202020202020202020202020 667 968 50278 -
202020202020202020202020202020202020202020202020 5218 10406 50279 -
2d2d2d2d2d2d2d2d2d2d2d2d2d2d2d2d2d2d2d2d2d2d2d2d - - 22369 22369
2e2e2e2e2e2e2e2e2e2e2e2e2e2e2e2e2e2e2e2e2e2e2e2e 57341 104856 27754 27754
20202020202020202020202020202020202020202020202020 3586 6453 50280 -
2020202020202020202020202020202020202020202020202020 6096 12397 - -
202020202020202020202020202020202020202020202020202020 1014 1686 - -
20202020202020202020202020202020202020202020202020202020 6663 13541 - -
2d2d2d2d2d2d2d2d2d2d2d2d2d2d2d2d2d2d2d2d2d2d2d2d2d2d2d2d 28914 - - -
2020202020202020202020202020202020202020202020202020202020 4700 8616 - -
202020202020202020202020202020202020202020202020202020202020 7714 15880 - -
2d2d2d2d2d2d2d2d2d2d2d2d2d2d2d2d2d2d2d2d2d2d2d2d2d2d2d2d2d2d 86226 - - -
20202020202020202020202020202020202020202020202020202020202020 1408 2419 - -
2020202020202020202020202020202020202020202020202020202020202020 792 1213 - -
2d2d2d2d2d2d2d2d2d2d2d2d2d2d2d2d2d2d2d2d2d2d2d2d2d2d2d2d2d2d2d2d 1434 2737 3880 3880
2e2e2e2e2e2e2e2e2e2e2e2e2e2e2e2e2e2e2e2e2e2e2e2e2e2e2e2e2e2e2e2e 16971 27838 8864 8864
3d3d3d3d3d3d3d3d3d3d3d3d3d3d3d3d3d3d3d3d3d3d3d3d3d3d3d3d3d3d3d3d 3134 6288 10052 10052
202020202020202020202020202020202020202020202020202020202020202020 6794 12599 - -
20202020202020202020202020202020202020202020202020202020202020202020 9898 21063 - -
2020202020202020202020202020202020202020202020202020202020202020202020 1961 3523 - -
202020202020202020202020202020202020202020202020202020202020202020202020 10812 22731 - -
20202020202020202020202020202020202020202020202020202020202020202020202020 8497 16198 - -
2020202020202020202020202020202020202020202020202020202020202020202020202020 11317 24131 - -
202020202020202020202020202020202020202020202020202020202020202020202020202020 2623 4754 - -
20202020202020202020202020202020202020202020202020202020202020202020202020202020 13137 27240 - -
2020202020202020202020202020202020202020202020202020202020202020202020202020202020 10724 20949 - -
202020202020202020202020202020202020202020202020202020202020202020202020202020202020 14600 31024 - -
20202020202020202020202020202020202020202020202020202020202020202020202020202020202020 3425 6322 - -
2020202020202020202020202020202020202020202020202020202020202020202020202020202020202020 15791 32392 - -
202020202020202020202020202020202020202020202020202020202020202020202020202020202020202020 13771 26829 - -
20202020202020202020202020202020202020202020202020202020202020202020202020202020202020202020 17712 38019 - -
2020202020202020202020202020202020202020202020202020202020202020202020202020202020202020202020 4672 8793 - -
202020202020202020202020202020202020202020202020202020202020202020202020202020202020202020202020 19273 41146 - -
2d2d2d2d2d2d2d2d2d2d2d2d2d2d2d2d2d2d2d2d2d2d2d2d2d2d2d2d2d2d2d2d2d2d2d2d2d2d2d2d2d2d2d2d2d2d2d2d 9411 19076 47232 47232
20202020202020202020202020202020202020202020202020202020202020202020202020202020202020202020202020 18115 35584 - -
2020202020202020202020202020202020202020202020202020202020202020202020202020202020202020202020202020 22232 48774 - -
202020202020202020202020202020202020202020202020202020202020202020202020202020202020202020202020202020 6508 12266 - -
20202020202020202020202020202020202020202020202020202020202020202020202020202020202020202020202020202020 25343 54372 - -
2020202020202020202020202020202020202020202020202020202020202020202020202020202020202020202020202020202020 21649 43806 - -
202020202020202020202020202020202020202020202020202020202020202020202020202020202020202020202020202020202020 26857 57342 - -
20202020202020202020202020202020202020202020202020202020202020202020202020202020202020202020202020202020202020 8299 16006 - -
2020202020202020202020202020202020202020202020202020202020202020202020202020202020202020202020202020202020202020 29902 63991 - -
2d2d2d2d2d2d2d2d2d2d2d2d2d2d2d2d2d2d2d2d2d2d2d2d2d2d2d2d2d2d2d2d2d2d2d2d2d2d2d2d2d2d2d2d2d2d2d2d2d2d2d2d2d2d2d2d - - 43801 43801
202020202020202020202020202020202020202020202020202020202020202020202020202020202020202020202020202020202020202020 27157 56404 - -
20202020202020202020202020202020202020202020202020202020202020202020202020202020202020202020202020202020202020202020 33778 72749 - -
2020202020202020202020202020202020202020202020202020202020202020202020202020202020202020202020202020202020202020202020 12216 23643 - -
202020202020202020202020202020202020202020202020202020202020202020202020202020202020202020202020202020202020202020202020 39584 83300 - -
2d2d2d2d2d2d2d2d2d2d2d2d2d2d2d2d2d2d2d2d2d2d2d2d2d2d2d2d2d2d2d2d2d2d2d2d2d2d2d2d2d2d2d2d2d2d2d2d2d2d2d2d2d2d2d2d2d2d2d2d2d2d2d2d 3597 7535 10097 10097
2d2d2d2d2d2d2d2d2d2d2d2d2d2d2d2d2d2d2d2d2d2d2d2d2d2d2d2d2d2d2d2d2d2d2d2d2d2d2d2d2d2d2d2d2d2d2d2d2d2d2d2d2d2d2d2d2d2d2d2d2d2d2d2d2d2d2d2d2d2d 54364 98699 - -"

end TokenSurvey.Tokens
